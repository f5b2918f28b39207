import CloudSync.Rust.Text

/-!
# Cookies

A `Cookie` header lists pairs that are separated by semicolons, a `Set-Cookie` header
starts with the pair that a client keeps. A server finds a cookie by splitting the
header, trimming the parts and splitting them at the first `=`.
-/

namespace Rust

set_option autoImplicit false

def cookieText (cookie : String × String) : List Char := cookie.1.toList ++ '=' :: cookie.2.toList

/-- The header of a client that keeps these cookies. -/
def cookieHeader (cookies : List (String × String)) : String :=
  String.ofList ([';', ' '].intercalate (cookies.map cookieText))

/-- The pair that a client keeps of a `Set-Cookie` line. -/
def setCookiePair (line : String) : Option (String × String) :=
  splitOnce (String.ofList ((chars line).takeWhile (· ≠ ';'))) '='

/-- What a server reads out of one part of the header. -/
def cookieNamed (name : String) (part : List Char) : Option String :=
  match splitOnceChars '=' (trimChars part) with
  | some (cookieName, cookieValue) =>
    if cookieName = chars name then some (String.ofList cookieValue) else none
  | none => none

def findCookie (header name : String) : Option String :=
  (splitChars ';' (chars header)).findSome? (cookieNamed name)

/-- Names and values without separators and white space. -/
structure PlainCookie (cookie : String × String) : Prop where
  name : ∀ ch ∈ cookie.1.toList, ch ≠ ';' ∧ ch ≠ '=' ∧ isWhitespace ch = false
  value : ∀ ch ∈ cookie.2.toList, ch ≠ ';' ∧ isWhitespace ch = false

section Splitting
variable {ch : Char} {l : List Char}

theorem splitChars_of_notMem (h : ch ∉ l) : splitChars ch l = [l] := by
  induction l with
  | nil => rfl
  | cons x l ih =>
    rw [List.mem_cons, not_or] at h
    obtain ⟨hx, hl⟩ := h
    rw [splitChars, if_neg (Ne.symm hx), ih hl]

theorem splitChars_append_cons (h : ch ∉ l) (r : List Char) :
    splitChars ch (l ++ ch :: r) = l :: splitChars ch r := by
  induction l with
  | nil => rw [List.nil_append, splitChars, if_pos rfl]
  | cons x l ih =>
    rw [List.mem_cons, not_or] at h
    obtain ⟨hx, hl⟩ := h
    rw [List.cons_append, splitChars, if_neg (Ne.symm hx), ih hl]

theorem splitChars_ne_nil (ch : Char) (l : List Char) : splitChars ch l ≠ [] := by
  cases l with
  | nil => exact List.cons_ne_nil _ _
  | cons x l =>
    rw [splitChars]
    split
    · exact List.cons_ne_nil _ _
    · split <;> exact List.cons_ne_nil _ _

theorem splitOnceChars_append_cons (h : ch ∉ l) (r : List Char) :
    splitOnceChars ch (l ++ ch :: r) = some (l, r) := by
  have hspan : (l ++ ch :: r).span (· ≠ ch) = (l, ch :: r) := by
    rw [List.span_eq_takeWhile_dropWhile]
    have hall : ∀ x ∈ l, decide (x ≠ ch) = true := fun x hx => by
      simpa using fun heq : x = ch => h (heq ▸ hx)
    rw [List.takeWhile_append_of_pos hall, List.dropWhile_append_of_pos hall]
    simp
  rw [splitOnceChars, hspan]

theorem trimChars_of_plain (h : ∀ x ∈ l, isWhitespace x = false) : trimChars l = l := by
  have hkeeps : ∀ l : List Char, (∀ x ∈ l, isWhitespace x = false) → l.dropWhile isWhitespace = l := by
    intro l hl
    cases l with
    | nil => rfl
    | cons x l => simp [hl x (by simp)]
  rw [trimChars, hkeeps l h, hkeeps l.reverse fun x hx => h x (List.mem_reverse.mp hx), List.reverse_reverse]

theorem trimChars_space (l : List Char) : trimChars (' ' :: l) = trimChars l := by
  have hspace : isWhitespace ' ' = true := by decide
  rw [trimChars, trimChars, List.dropWhile_cons_of_pos hspace]

end Splitting

section Plain
variable {cookie : String × String}

theorem PlainCookie.text (h : PlainCookie cookie) :
    ∀ ch ∈ cookieText cookie, ch ≠ ';' ∧ isWhitespace ch = false := by
  intro ch hch
  rw [cookieText, List.mem_append, List.mem_cons] at hch
  rcases hch with hname | rfl | hvalue
  · exact ⟨(h.name ch hname).1, (h.name ch hname).2.2⟩
  · decide
  · exact h.value ch hvalue

theorem PlainCookie.separate (h : PlainCookie cookie) : ';' ∉ cookieText cookie :=
  fun hmem => (h.text ';' hmem).1 rfl

theorem cookieNamed_text (h : PlainCookie cookie) (name : String) :
    cookieNamed name (cookieText cookie) = if name = cookie.1 then some cookie.2 else none := by
  have hequals : '=' ∉ cookie.1.toList := fun hmem => (h.name '=' hmem).2.1 rfl
  rw [cookieNamed, trimChars_of_plain fun ch hch => (h.text ch hch).2, cookieText,
    splitOnceChars_append_cons hequals]
  simp only [chars_eq, String.toList_inj, String.ofList_toList, eq_comm (a := name)]

/-- The space behind a separator is not noticed. -/
theorem findSome_space (name : String) (l : List Char) :
    (splitChars ';' (' ' :: l)).findSome? (cookieNamed name) =
      (splitChars ';' l).findSome? (cookieNamed name) := by
  obtain ⟨part, parts, hparts⟩ := List.exists_cons_of_ne_nil (splitChars_ne_nil ';' l)
  have hspace : splitChars ';' (' ' :: l) = (' ' :: part) :: parts := by
    rw [splitChars, if_neg (by decide), hparts]
  have hnamed : cookieNamed name (' ' :: part) = cookieNamed name part := by
    rw [cookieNamed, cookieNamed, trimChars_space]
  rw [hspace, hparts, List.findSome?_cons, List.findSome?_cons, hnamed]

/-- A server finds the cookies that a client sends, the first one of each name. -/
theorem findCookie_cookieHeader {cookies : List (String × String)}
    (h : ∀ cookie ∈ cookies, PlainCookie cookie) (name : String) :
    findCookie (cookieHeader cookies) name = cookies.lookup name := by
  rw [findCookie, cookieHeader, chars_eq, String.toList_ofList]
  induction cookies with
  | nil => rfl
  | cons cookie cookies ih =>
    obtain ⟨hcookie, hcookies⟩ := List.forall_mem_cons.mp h
    have hlookup : (cookie :: cookies).lookup name =
        (if name = cookie.1 then some cookie.2 else none).or (cookies.lookup name) := by
      rw [List.lookup_cons]
      by_cases hname : name = cookie.1
      · simp [hname]
      · rw [if_neg hname, beq_false_of_ne hname]
        rfl
    rw [hlookup, List.map_cons]
    cases cookies with
    | nil =>
      rw [List.map_nil, List.intercalate_singleton, splitChars_of_notMem hcookie.separate]
      simp [cookieNamed_text hcookie]
    | cons next cookies =>
      have hjoin : [';', ' '].intercalate (cookieText cookie :: (next :: cookies).map cookieText) =
          cookieText cookie ++ ';' :: ' ' :: [';', ' '].intercalate ((next :: cookies).map cookieText) := by
        rw [List.map_cons, List.intercalate_cons_cons]
        simp
      rw [hjoin, splitChars_append_cons hcookie.separate, List.findSome?_cons, cookieNamed_text hcookie,
        findSome_space, ih hcookies]
      cases hif : (if name = cookie.1 then some cookie.2 else none) <;> rfl

/-- A client keeps the pair, whatever attributes follow. -/
theorem setCookiePair_append (h : PlainCookie cookie) (attributes : String) :
    setCookiePair (cookie.1 ++ "=" ++ cookie.2 ++ (";" ++ attributes)) = some cookie := by
  have hequals : '=' ∉ cookie.1.toList := fun hmem => (h.name '=' hmem).2.1 rfl
  have htext : (cookie.1 ++ "=" ++ cookie.2 ++ (";" ++ attributes)).toList =
      cookieText cookie ++ ';' :: attributes.toList := by
    simp [cookieText]
  have htake : (cookieText cookie ++ ';' :: attributes.toList).takeWhile (· ≠ ';') =
      cookieText cookie := by
    have hall : ∀ ch ∈ cookieText cookie, decide (ch ≠ ';') = true := fun ch hch => by
      simpa using (h.text ch hch).1
    rw [List.takeWhile_append_of_pos hall]
    simp
  rw [setCookiePair, chars_eq, htext, htake, splitOnce, chars_eq, String.toList_ofList, cookieText,
    splitOnceChars_append_cons hequals]
  simp

end Plain

end Rust

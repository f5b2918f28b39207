import Mathlib

/-!
# Timestamps as text

A point of time in UTC with a year of four digits, and the text that
`to_rfc3339` of `chrono` writes for it: the fraction has as many groups of three
digits as it needs. Texts are ordered as the points of time are.
-/

namespace Rust

set_option autoImplicit false

/-! ## Texts that differ at some place -/

/-- `l` and `l'` differ somewhere, and where they first do `l` has the smaller character. -/
def Below (l l' : List Char) : Prop :=
  ∃ common a b rest rest', l = common ++ a :: rest ∧ l' = common ++ b :: rest' ∧ a < b

section Below
variable {l l' m m' : List Char}

theorem Below.append (h : Below l l') (m m' : List Char) : Below (l ++ m) (l' ++ m') := by
  obtain ⟨common, a, b, rest, rest', rfl, rfl, hab⟩ := h
  exact ⟨common, a, b, rest ++ m, rest' ++ m', by simp, by simp, hab⟩

theorem Below.prepend (h : Below l l') (m : List Char) : Below (m ++ l) (m ++ l') := by
  obtain ⟨common, a, b, rest, rest', rfl, rfl, hab⟩ := h
  exact ⟨m ++ common, a, b, rest, rest', by simp, by simp, hab⟩

theorem Below.cons {ch : Char} (h : Below l l') : Below (ch :: l) (ch :: l') := h.prepend [ch]

theorem Below.of_head {a b : Char} (h : a < b) : Below (a :: l) (b :: l') := ⟨[], a, b, l, l', rfl, rfl, h⟩

theorem Below.lt (h : Below l l') : l < l' := by
  obtain ⟨common, a, b, rest, rest', rfl, rfl, hab⟩ := h
  exact List.append_left_lt (List.Lex.rel hab)

end Below

/-! ## Numbers of fixed width -/

/-- The last `width` decimal digits of `n`. -/
def digits : Nat → Nat → List Char
  | 0, _ => []
  | width + 1, n => digits width (n / 10) ++ [Nat.digitChar (n % 10)]

theorem length_digits (width n : Nat) : (digits width n).length = width := by
  induction width generalizing n with
  | zero => rfl
  | succ width ih => simp [digits, ih]

theorem digitChar_lt {m n : Nat} (hmn : m < n) (hn : n < 10) : Nat.digitChar m < Nat.digitChar n := by
  interval_cases n <;> interval_cases m <;> decide

theorem digits_below {width m n : Nat} (hmn : m < n) (hn : n < 10 ^ width) :
    Below (digits width m) (digits width n) := by
  induction width generalizing m n with
  | zero => omega
  | succ width ih =>
    unfold digits
    rcases Nat.lt_or_ge (m / 10) (n / 10) with hlt | hge
    · apply Below.append
      apply ih hlt
      rw [pow_succ] at hn
      omega
    · have heq : m / 10 = n / 10 := by omega
      rw [heq]
      apply Below.prepend
      apply Below.of_head
      apply digitChar_lt
      · omega
      · omega

theorem digits_add (width width' n : Nat) :
    digits (width + width') n = digits width (n / 10 ^ width') ++ digits width' n := by
  induction width' generalizing n with
  | zero => simp [digits]
  | succ width' ih =>
    rw [← Nat.add_assoc, digits, digits, ih, Nat.div_div_eq_div_mul, pow_succ', List.append_assoc]

theorem digits_mod (width n : Nat) : digits width (n % 10 ^ width) = digits width n := by
  induction width generalizing n with
  | zero => rfl
  | succ width ih =>
    have hdiv : n % 10 ^ (width + 1) / 10 = n / 10 % 10 ^ width := by
      rw [pow_succ', Nat.mod_mul_right_div_self]
    have hmod : n % 10 ^ (width + 1) % 10 = n % 10 := by
      rw [pow_succ', Nat.mod_mul_right_mod]
    rw [digits, digits, hdiv, hmod, ih]

/-- Digits come behind a plus sign. -/
theorem plus_below_digits (width n : Nat) (l l' : List Char) :
    Below ('+' :: l) (digits (width + 1) n ++ l') := by
  obtain ⟨ch, rest, hdigits, hch⟩ : ∃ ch rest, digits (width + 1) n = ch :: rest ∧ '+' < ch := by
    induction width generalizing n with
    | zero =>
      refine ⟨Nat.digitChar (n % 10), [], rfl, ?_⟩
      have hten := Nat.mod_lt n (by omega : 10 > 0)
      interval_cases n % 10 <;> decide
    | succ width ih =>
      obtain ⟨ch, rest, hdigits, hch⟩ := ih (n / 10)
      rw [digits, hdigits]
      exact ⟨ch, _, rfl, hch⟩
  rw [hdigits]
  exact Below.of_head hch

/-! ## Points of time -/

def isLeap (year : Nat) : Bool := year % 4 = 0 && (year % 100 ≠ 0 || year % 400 = 0)

def daysInMonth (year month : Nat) : Nat :=
  match month with
  | 2 => if isLeap year then 29 else 28
  | 4 | 6 | 9 | 11 => 30
  | _ => 31

/-- A point of time of the Gregorian calendar in UTC. -/
structure Timestamp where
  year : Nat
  month : Nat
  day : Nat
  hour : Nat
  minute : Nat
  second : Nat
  nanos : Nat
  year_lt : year < 10000
  month_pos : 1 ≤ month
  month_le : month ≤ 12
  day_pos : 1 ≤ day
  day_le : day ≤ daysInMonth year month
  hour_lt : hour < 24
  minute_lt : minute < 60
  second_lt : second < 60
  nanos_lt : nanos < 1000000000

/-- The days from 0000-01-01 to the first day of the year. -/
def daysBeforeYear (year : Nat) : Nat :=
  365 * year + (year + 3) / 4 + (year + 399) / 400 - (year + 99) / 100

def daysBeforeMonth (year month : Nat) : Nat :=
  ((List.range (month - 1)).map fun m => daysInMonth year (m + 1)).sum

namespace Timestamp

def dayNumber (t : Timestamp) : Nat :=
  daysBeforeYear t.year + daysBeforeMonth t.year t.month + (t.day - 1)

def secondOfDay (t : Timestamp) : Nat := t.hour * 3600 + t.minute * 60 + t.second

/-- Nanoseconds since 1970-01-01, the day with the number 719528. -/
def instant (t : Timestamp) : Int :=
  (((t.dayNumber : Int) - 719528) * 86400 + t.secondOfDay) * 1000000000 + t.nanos

/-- The fraction of a second, in as few groups of digits as possible. -/
def fraction (nanos : Nat) : List Char :=
  if nanos = 0 then []
  else if nanos % 1000000 = 0 then '.' :: digits 3 (nanos / 1000000)
  else if nanos % 1000 = 0 then '.' :: digits 6 (nanos / 1000)
  else '.' :: digits 9 nanos

/-- `to_rfc3339`. -/
def toRfc3339 (t : Timestamp) : String :=
  String.ofList (digits 4 t.year ++ '-' :: (digits 2 t.month ++ '-' :: (digits 2 t.day ++ 'T' ::
    (digits 2 t.hour ++ ':' :: (digits 2 t.minute ++ ':' :: (digits 2 t.second ++
      (fraction t.nanos ++ ['+', '0', '0', ':', '0', '0'])))))))

/-- The first field in which they differ is less. -/
def Earlier (s t : Timestamp) : Prop :=
  s.year < t.year ∨ s.year = t.year ∧ (s.month < t.month ∨ s.month = t.month ∧
    (s.day < t.day ∨ s.day = t.day ∧ (s.hour < t.hour ∨ s.hour = t.hour ∧
      (s.minute < t.minute ∨ s.minute = t.minute ∧ (s.second < t.second ∨ s.second = t.second ∧
        s.nanos < t.nanos)))))

end Timestamp

section Calendar
variable {year month month' : Nat}

theorem daysBeforeMonth_succ (hmonth : 1 ≤ month) :
    daysBeforeMonth year (month + 1) = daysBeforeMonth year month + daysInMonth year month := by
  obtain ⟨m, rfl⟩ := Nat.exists_eq_add_of_le' hmonth
  unfold daysBeforeMonth
  rw [Nat.add_sub_cancel, Nat.add_sub_cancel, List.range_succ, List.map_append, List.sum_append]
  simp

theorem daysBeforeMonth_le (hmonth : 1 ≤ month) (hlt : month < month') :
    daysBeforeMonth year month + daysInMonth year month ≤ daysBeforeMonth year month' := by
  induction month' with
  | zero => omega
  | succ m ih =>
    rcases Nat.lt_or_ge month m with hm | hm
    · have hstep := ih hm
      rw [daysBeforeMonth_succ (by omega)]
      omega
    · obtain rfl : m = month := by omega
      rw [daysBeforeMonth_succ hmonth]

theorem daysBeforeMonth_thirteen (year : Nat) :
    daysBeforeMonth year 13 = if isLeap year then 366 else 365 := by
  unfold daysBeforeMonth
  cases hleap : isLeap year <;> simp [List.range_succ, daysInMonth, hleap]

theorem isLeap_iff (year : Nat) :
    isLeap year = true ↔ year % 4 = 0 ∧ (year % 100 ≠ 0 ∨ year % 400 = 0) := by
  simp [isLeap]

theorem daysBeforeYear_succ (year : Nat) :
    daysBeforeYear (year + 1) = daysBeforeYear year + daysBeforeMonth year 13 := by
  have hfours : (year + 1 + 3) / 4 = (year + 3) / 4 + if year % 4 = 0 then 1 else 0 := by
    split <;> omega
  have hcenturies : (year + 1 + 99) / 100 = (year + 99) / 100 + if year % 100 = 0 then 1 else 0 := by
    split <;> omega
  have heras : (year + 1 + 399) / 400 = (year + 399) / 400 + if year % 400 = 0 then 1 else 0 := by
    split <;> omega
  have hfew : (year + 99) / 100 ≤ year := by omega
  have hfour : year % 100 = 0 → year % 4 = 0 := by omega
  have hcentury : year % 400 = 0 → year % 100 = 0 := by omega
  rw [daysBeforeMonth_thirteen]
  unfold daysBeforeYear
  rw [hfours, hcenturies, heras]
  generalize (year + 3) / 4 = fours
  generalize (year + 99) / 100 = centuries at hfew
  generalize (year + 399) / 400 = eras
  by_cases hleap : isLeap year = true
  · rw [if_pos hleap]
    rw [isLeap_iff] at hleap
    obtain ⟨hdiv, hcommon | hera⟩ := hleap
    · rw [if_pos hdiv, if_neg hcommon, if_neg (mt hcentury hcommon)]
      omega
    · rw [if_pos hdiv, if_pos (hcentury hera), if_pos hera]
      omega
  · rw [if_neg hleap]
    rw [isLeap_iff] at hleap
    by_cases hdiv : year % 4 = 0
    · have hno : year % 100 = 0 ∧ year % 400 ≠ 0 := by
        constructor
        · by_contra hcommon
          exact hleap ⟨hdiv, .inl hcommon⟩
        · intro hera
          exact hleap ⟨hdiv, .inr hera⟩
      rw [if_pos hdiv, if_pos hno.1, if_neg hno.2]
      omega
    · rw [if_neg hdiv, if_neg (mt hfour hdiv), if_neg fun hera => hdiv (hfour (hcentury hera))]
      omega

theorem daysBeforeYear_le {year' : Nat} (hlt : year < year') :
    daysBeforeYear year + daysBeforeMonth year 13 ≤ daysBeforeYear year' := by
  induction year' with
  | zero => omega
  | succ y ih =>
    rcases Nat.lt_or_ge year y with hy | hy
    · have hstep := ih hy
      rw [daysBeforeYear_succ]
      omega
    · obtain rfl : y = year := by omega
      rw [daysBeforeYear_succ]

theorem daysBeforeMonth_lt {day : Nat} (hpos : 1 ≤ month) (hmonth : month ≤ 12)
    (hday : day ≤ daysInMonth year month) (hdayPos : 1 ≤ day) :
    daysBeforeMonth year month + (day - 1) < daysBeforeMonth year 13 := by
  have hle : daysBeforeMonth year month + daysInMonth year month ≤ daysBeforeMonth year 13 :=
    daysBeforeMonth_le hpos (by omega)
  omega

end Calendar

/-! ## The texts have the order of the points of time -/

theorem shorter_below (width extra : Nat) {m n : Nat} (hle : m * 10 ^ (extra + 1) ≤ n)
    (hn : n < 10 ^ (width + (extra + 1))) (l l' : List Char) :
    Below (digits width m ++ '+' :: l) (digits (width + (extra + 1)) n ++ l') := by
  rw [digits_add, List.append_assoc]
  have hpos : 0 < 10 ^ (extra + 1) := Nat.pow_pos (by omega)
  have hquotient : m ≤ n / 10 ^ (extra + 1) := (Nat.le_div_iff_mul_le hpos).2 hle
  rcases Nat.lt_or_eq_of_le hquotient with hlt | heq
  · apply Below.append
    apply digits_below hlt
    rwa [Nat.div_lt_iff_lt_mul hpos, ← pow_add]
  · rw [heq]
    exact (plus_below_digits extra n l l').prepend _

theorem longer_below (width extra : Nat) {m n : Nat} (hlt : m < n * 10 ^ extra) (hn : n < 10 ^ width)
    (l l' : List Char) : Below (digits (width + extra) m ++ l) (digits width n ++ l') := by
  rw [digits_add, List.append_assoc]
  apply Below.append
  apply digits_below _ hn
  rwa [Nat.div_lt_iff_lt_mul (Nat.pow_pos (by omega))]

namespace Timestamp

theorem fraction_below {m n : Nat} (hmn : m < n) (hn : n < 1000000000) (l l' : List Char) :
    Below (fraction m ++ '+' :: l) (fraction n ++ '+' :: l') := by
  unfold fraction
  rw [if_neg (show n ≠ 0 by omega)]
  by_cases hzero : m = 0
  · rw [if_pos hzero]
    split_ifs
    all_goals exact Below.of_head (by decide)
  rw [if_neg hzero]
  -- the fractions have three, six or nine digits each
  split_ifs
  all_goals apply Below.cons
  · exact (digits_below (by omega) (by omega)).append _ _
  · exact shorter_below 3 2 (by omega) (by omega) _ _
  · exact shorter_below 3 5 (by omega) (by omega) _ _
  · exact longer_below 3 3 (by omega) (by omega) _ _
  · exact (digits_below (by omega) (by omega)).append _ _
  · exact shorter_below 6 2 (by omega) (by omega) _ _
  · exact longer_below 3 6 (by omega) (by omega) _ _
  · exact longer_below 6 3 (by omega) (by omega) _ _
  · exact (digits_below (by omega) (by omega)).append _ _

section Order
variable {s t : Timestamp}

theorem Earlier.text_below (h : s.Earlier t) :
    Below s.toRfc3339.toList t.toRfc3339.toList := by
  have hyear := t.year_lt
  have hmonth := t.month_le
  have hday : t.day ≤ 31 := by
    refine le_trans t.day_le ?_
    unfold daysInMonth
    split <;> (try split) <;> omega
  have hhour := t.hour_lt
  have hminute := t.minute_lt
  have hsecond := t.second_lt
  unfold toRfc3339
  rw [String.toList_ofList, String.toList_ofList]
  rcases h with h | ⟨heq, h⟩
  · exact (digits_below h (by omega)).append _ _
  rw [heq]
  refine Below.prepend (Below.cons ?_) _
  rcases h with h | ⟨heq, h⟩
  · exact (digits_below h (by omega)).append _ _
  rw [heq]
  refine Below.prepend (Below.cons ?_) _
  rcases h with h | ⟨heq, h⟩
  · exact (digits_below h (by omega)).append _ _
  rw [heq]
  refine Below.prepend (Below.cons ?_) _
  rcases h with h | ⟨heq, h⟩
  · exact (digits_below h (by omega)).append _ _
  rw [heq]
  refine Below.prepend (Below.cons ?_) _
  rcases h with h | ⟨heq, h⟩
  · exact (digits_below h (by omega)).append _ _
  rw [heq]
  refine Below.prepend (Below.cons ?_) _
  rcases h with h | ⟨heq, h⟩
  · exact (digits_below h (by omega)).append _ _
  rw [heq]
  exact (fraction_below h t.nanos_lt _ _).prepend _

theorem dayNumber_lt_or_eq (h : s.Earlier t) :
    s.dayNumber < t.dayNumber ∨ s.dayNumber = t.dayNumber ∧
      (s.hour < t.hour ∨ s.hour = t.hour ∧ (s.minute < t.minute ∨ s.minute = t.minute ∧
        (s.second < t.second ∨ s.second = t.second ∧ s.nanos < t.nanos))) := by
  have hyear := daysBeforeMonth_lt s.month_pos s.month_le s.day_le s.day_pos
  have hmonth := s.day_le
  have hpos := s.day_pos
  unfold dayNumber
  rcases h with h | ⟨heq, h⟩
  · have hle := daysBeforeYear_le h
    omega
  rw [heq] at hmonth ⊢
  rcases h with h | ⟨heq, h⟩
  · have hle : daysBeforeMonth t.year s.month + daysInMonth t.year s.month
        ≤ daysBeforeMonth t.year t.month := daysBeforeMonth_le s.month_pos h
    omega
  rw [heq]
  rcases h with h | ⟨heq, h⟩
  · omega
  · right
    exact ⟨by rw [heq], h⟩

theorem Earlier.instant_lt (h : s.Earlier t) : s.instant < t.instant := by
  have hday := dayNumber_lt_or_eq h
  have hhour := s.hour_lt
  have hminute := s.minute_lt
  have hsecond := s.second_lt
  have hnanos := s.nanos_lt
  unfold instant secondOfDay
  omega

theorem earlier_trichotomy (s t : Timestamp) : s.Earlier t ∨ s = t ∨ t.Earlier s := by
  obtain ⟨year, month, day, hour, minute, second, nanos⟩ := s
  obtain ⟨year', month', day', hour', minute', second', nanos'⟩ := t
  unfold Earlier
  simp only [Timestamp.mk.injEq]
  omega

theorem earlier_iff : s.Earlier t ↔ s.instant < t.instant := by
  constructor
  · exact Earlier.instant_lt
  · intro hlt
    rcases earlier_trichotomy s t with h | rfl | h
    · exact h
    · omega
    · have hgt := h.instant_lt
      omega

theorem eq_of_instant_eq (heq : s.instant = t.instant) : s = t := by
  rcases earlier_trichotomy s t with h | h | h
  · have hlt := h.instant_lt
    omega
  · exact h
  · have hlt := h.instant_lt
    omega

end Order

end Timestamp

end Rust

import CloudSync.AbstractStore

/-!
# What the store promises

A read finds the last successful write, a hidden namespace comes back as it was, and a purged
one is as if it had never been used.
-/

namespace CloudSync

open Rust Redb

set_option autoImplicit false

variable {c : Crates} {state : AppState} {amb : Ambient} {headers : HeaderMap}

/-! ## One operation -/

/-- A part of the contents of a namespace. -/
inductive Part where
  | metadata
  | blob
  | object (path : String)
  deriving Repr, DecidableEq

/-- The operation may write the part. -/
def Operation.writes (part : Part) : Operation → Bool
  | .putMetadata _ | .create => part == .metadata
  | .putBlob _ _ => part == .metadata || part == .blob
  | .putObject rawPath _ | .deleteObject rawPath =>
    match decodeObjectPath rawPath with
    | .ok path => part == .object path
    | .error _ => false
  | .delete hard => hard
  | _ => false

/-- The parts are the same. -/
def Contents.SamePart (part : Part) (contents contents' : Contents) : Prop :=
  match part with
  | .metadata => contents'.metadata = contents.metadata
  | .blob => contents'.blob = contents.blob
  | .object path => contents'.objects[path]? = contents.objects[path]?

section Operations
variable {part : Part} {contents : Contents} {ns : String}

theorem Contents.SamePart.refl : Contents.SamePart part contents contents := by
  cases part <;> rfl

theorem Contents.SamePart.trans {contents' contents'' : Contents}
    (h : Contents.SamePart part contents contents') (h' : Contents.SamePart part contents' contents'') :
    Contents.SamePart part contents contents'' := by
  cases part with
  | metadata => exact Eq.trans h' h
  | blob => exact Eq.trans h' h
  | object path => exact Eq.trans h' h

/-- Whatever the outcome leaves, it satisfies `J`. -/
def Contents.Leaving (J : Contents → Prop) (outcome : Contents.Outcome) : Prop :=
  ∀ response contents', outcome = .ok (response, contents') → J contents'

variable {J : Contents → Prop}

theorem leaving_bind {α : Type} {x : Except AppError α} {f : α → Contents.Outcome}
    (h : ∀ a, x = .ok a → Contents.Leaving J (f a)) : Contents.Leaving J (x >>= f) := by
  cases x with
  | error e =>
    intro response contents' hout
    cases hout
  | ok a => exact h a rfl

theorem leaving_ok {response : Response} {contents' : Contents} (h : J contents') :
    Contents.Leaving J (.ok (response, contents')) := by
  intro response' contents'' hout
  cases hout
  exact h

theorem leaving_error {e : AppError} : Contents.Leaving J (.error e) := by
  intro response contents' hout
  cases hout

theorem leaving_pure {response : Response} {contents' : Contents} (h : J contents') :
    Contents.Leaving J (pure (response, contents')) := leaving_ok h

/-- An operation keeps what it does not write. -/
theorem serve_samePart {operation : Operation} (h : operation.writes part = false) :
    Contents.Leaving (Contents.SamePart part contents)
      (contents.serve c state amb headers ns operation) := by
  cases operation with
  | getMetadata => exact leaving_bind fun _ _ => leaving_ok .refl
  | putMetadata body =>
    refine leaving_bind fun _ _ => leaving_bind fun _ _ => leaving_pure ?_
    cases part <;> simp_all [Operation.writes, Contents.SamePart]
  | getBlob =>
    refine leaving_bind fun _ _ => ?_
    unfold Contents.getBlob
    split
    · exact leaving_error
    · exact leaving_ok .refl
  | putBlob sectionRevisions body =>
    refine leaving_bind fun _ _ => leaving_bind fun _ _ => leaving_bind fun _ _ =>
      leaving_bind fun _ _ => leaving_pure ?_
    cases part <;> simp_all [Operation.writes, Contents.SamePart]
  | listObjects query => exact leaving_bind fun _ _ => leaving_bind fun _ _ => leaving_pure .refl
  | getObject rawPath => exact leaving_bind fun _ _ => leaving_bind fun _ _ => leaving_pure .refl
  | putObject rawPath body =>
    refine leaving_bind fun _ _ => leaving_bind fun path hpath => leaving_bind fun _ _ =>
      leaving_bind fun _ _ => leaving_bind fun _ _ => leaving_pure ?_
    simp only [Operation.writes, hpath] at h
    cases part with
    | object path' =>
      have hne : path' ≠ path := by simpa using h
      simp [Contents.SamePart, Std.ExtTreeMap.getElem?_insert, hne.symm]
    | _ => rfl
  | deleteObject rawPath =>
    refine leaving_bind fun _ _ => leaving_bind fun path hpath => leaving_pure ?_
    simp only [Operation.writes, hpath] at h
    cases part with
    | object path' =>
      have hne : path' ≠ path := by simpa using h
      simp [Contents.SamePart, Std.ExtTreeMap.getElem?_erase, hne.symm]
    | _ => rfl
  | create =>
    refine leaving_bind fun _ _ => leaving_bind fun _ _ => leaving_bind fun _ _ => leaving_pure ?_
    cases part <;> simp_all [Operation.writes, Contents.SamePart]
  | delete hard =>
    obtain rfl : hard = false := h
    refine leaving_bind fun _ _ => leaving_bind fun _ _ => leaving_bind fun _ _ => leaving_pure ?_
    cases part <;> rfl
  | restore =>
    refine leaving_bind fun _ _ => leaving_bind fun _ _ => leaving_pure ?_
    cases part <;> rfl

end Operations

/-! ## One request -/

section Requests
variable {store : Store} {r : Request} {ns other : String} {operation : Operation} {response : Response}

theorem store_serve_ok (hcall : r.endpoint.storeCall = some (ns, operation))
    (h : (store.serve c state amb r).1 = .ok response) :
    ∃ contents', (store ns).serve c state amb r.headers ns operation = .ok (response, contents') ∧
      (store.serve c state amb r).2 = Function.update store ns contents' := by
  unfold Store.serve at h ⊢
  rw [hcall] at h ⊢
  dsimp only at h ⊢
  cases hout : (store ns).serve c state amb r.headers ns operation with
  | error e =>
    rw [hout] at h
    cases h
  | ok result =>
    obtain ⟨response', contents'⟩ := result
    rw [hout] at h
    obtain rfl := Except.ok.inj h
    exact ⟨contents', rfl, rfl⟩

theorem store_serve_error {e : AppError} (h : (store.serve c state amb r).1 = .error e) :
    (store.serve c state amb r).2 = store := by
  unfold Store.serve at h ⊢
  split at h
  · rfl
  · split at h
    · rfl
    · cases h

/-- No operation is visible in another namespace. -/
theorem store_serve_elsewhere (hcall : r.endpoint.storeCall = some (ns, operation)) (hne : other ≠ ns) :
    (store.serve c state amb r).2 other = store other := by
  cases hanswer : (store.serve c state amb r).1 with
  | error e => rw [store_serve_error hanswer]
  | ok response =>
    obtain ⟨contents', -, hnext⟩ := store_serve_ok hcall hanswer
    rw [hnext, Function.update_of_ne hne]

/-- The request succeeds with an operation of this kind on the namespace. -/
def Store.Performs (c : Crates) (state : AppState) (ns : String) (kind : Operation → Bool) (amb : Ambient)
    (r : Request) (store : Store) : Prop :=
  ∃ operation response, r.endpoint.storeCall = some (ns, operation) ∧ kind operation = true ∧
    (store.serve c state amb r).1 = .ok response

/-- What a request leaves in a namespace, unless it performs an operation of the kind. -/
theorem store_serve_spares {kind : Operation → Bool} {J : Contents → Prop} (hJ : J (store ns))
    (hkind : ∀ operation, kind operation = false →
      Contents.Leaving J ((store ns).serve c state amb r.headers ns operation))
    (h : ¬ Store.Performs c state ns kind amb r store) : J ((store.serve c state amb r).2 ns) := by
  cases hanswer : (store.serve c state amb r).1 with
  | error e =>
    rw [store_serve_error hanswer]
    exact hJ
  | ok response =>
    cases hcall : r.endpoint.storeCall with
    | none =>
      rw [Store.serve, hcall] at hanswer
      cases hanswer
    | some call =>
      obtain ⟨other, operation⟩ := call
      by_cases hns : ns = other
      · subst hns
        obtain ⟨contents', hout, hnext⟩ := store_serve_ok hcall hanswer
        have hspared : kind operation = false := by
          by_contra hperformed
          exact h ⟨operation, response, hcall, by simpa using hperformed, hanswer⟩
        rw [hnext, Function.update_self]
        exact hkind operation hspared response contents' hout
      · rw [store_serve_elsewhere hcall hns]
        exact hJ

end Requests

/-! ## Runs -/

/-- None of the requests performs an operation of the kind on the namespace. -/
def Store.Spared (c : Crates) (state : AppState) (ns : String) (kind : Operation → Bool) :
    List (Ambient × Request) → Store → Prop
  | [], _ => True
  | (amb, r) :: rest, store =>
    ¬ store.Performs c state ns kind amb r ∧ Store.Spared c state ns kind rest (store.serve c state amb r).2

section Runs
variable {store : Store} {ns : String} {requests : List (Ambient × Request)}

theorem Store.Spared.invariant {kind : Operation → Bool} {J : Contents → Prop}
    (hkind : ∀ (contents : Contents) (amb : Ambient) (headers : HeaderMap) (operation : Operation), J contents →
      kind operation = false → Contents.Leaving J (contents.serve c state amb headers ns operation))
    (hspared : store.Spared c state ns kind requests) (hJ : J (store ns)) :
    J ((store.serveAll c state requests).2 ns) := by
  induction requests generalizing store with
  | nil => exact hJ
  | cons head rest ih =>
    obtain ⟨amb, r⟩ := head
    exact ih hspared.2 (store_serve_spares hJ (fun operation => hkind _ amb r.headers operation hJ) hspared.1)

/-- What no request overwrites is there at the end. -/
theorem Store.Spared.samePart {part : Part} (hspared : store.Spared c state ns (·.writes part) requests) :
    Contents.SamePart part (store ns) ((store.serveAll c state requests).2 ns) := by
  refine hspared.invariant (J := Contents.SamePart part (store ns)) ?_ .refl
  intro contents amb headers operation hsame hkind response contents' hout
  exact hsame.trans (serve_samePart hkind response contents' hout)

end Runs

/-! ## Hidden namespaces -/

/-- The operation makes a hidden namespace active again. -/
def Operation.reveals : Operation → Bool
  | .restore => true
  | .delete hard => hard
  | _ => false

section Hidden
variable {contents : Contents} {ns : String} {operation : Operation}

theorem ifActive_hidden {outcome : Contents.Outcome} (h : contents.deleted = true) :
    contents.ifActive ns outcome = .error (.notFound s!"Namespace '{ns}' is soft-deleted") := by
  rw [Contents.ifActive, h]
  rfl

theorem serve_hidden_sync (h : contents.deleted = true) (hsync : operation.permission.isSome) :
    contents.serve c state amb headers ns operation =
      .error (.notFound s!"Namespace '{ns}' is soft-deleted") := by
  cases operation <;> first | exact ifActive_hidden h | cases hsync

/-- Nothing but a restore or a purge succeeds. -/
theorem serve_hidden (h : contents.deleted = true) (hkind : operation.reveals = false) (J : Contents → Prop) :
    Contents.Leaving J (contents.serve c state amb headers ns operation) := by
  by_cases hsync : operation.permission.isSome
  · rw [serve_hidden_sync h hsync]
    exact leaving_error
  · have hrefused (e : AppError) (f : Unit → Contents.Outcome) :
        Contents.Leaving J (check (!contents.deleted) e >>= f) := by
      refine leaving_bind fun _ hactive => ?_
      rw [check, h] at hactive
      cases hactive
    cases operation with
    | create => exact leaving_bind fun _ _ => hrefused _ _
    | delete hard =>
      obtain rfl : hard = false := hkind
      exact hrefused _ _
    | restore => cases hkind
    | _ => exact absurd rfl hsync

end Hidden

/-! ## The promises -/

/-- The store behind a request and those that follow it. -/
abbrev Store.after (c : Crates) (state : AppState) (amb : Ambient) (r : Request)
    (rest : List (Ambient × Request)) (store : Store) : Store :=
  ((store.serve c state amb r).2.serveAll c state rest).2

/-- What a client may rely on, whatever the other requests of the run are. -/
structure Store.Promises (c : Crates) (state : AppState) : Prop where
  elsewhere {store : Store} {amb : Ambient} {r : Request} {ns other : String} {operation : Operation}
    (hcall : r.endpoint.storeCall = some (ns, operation)) (hne : other ≠ ns) :
    (store.serve c state amb r).2 other = store other
  refused {store : Store} {amb : Ambient} {r : Request} {e : AppError}
    (h : (store.serve c state amb r).1 = .error e) : (store.serve c state amb r).2 = store
  /-- An object is read as the last successful write left it. -/
  objects {store : Store} {amb amb' : Ambient} {r r' : Request} {ns rawPath rawPath' path : String}
    {body : Bytes} {response : Response} {rest : List (Ambient × Request)}
    (hput : r.endpoint.storeCall = some (ns, .putObject rawPath body))
    (hpath : decodeObjectPath rawPath = .ok path)
    (hanswer : (store.serve c state amb r).1 = .ok response)
    (hlast : (store.serve c state amb r).2.Spared c state ns (·.writes (.object path)) rest)
    (hactive : (store.after c state amb r rest ns).deleted = false)
    (hget : r'.endpoint.storeCall = some (ns, .getObject rawPath'))
    (hpath' : decodeObjectPath rawPath' = .ok path) :
    ((store.after c state amb r rest).serve c state amb' r').1 =
      .ok (.object (some
        { contentType := contentTypeOf path
          etag := parseHeaderValue (amb.newUuid 0)
          body := body }))
  /-- So is the blob, under the ETag of the last write of the blob or of the record. -/
  blobs {store : Store} {amb amb' : Ambient} {r r' : Request} {ns : String}
    {sectionRevisions : Option SectionRevisions} {body : Bytes} {response : Response}
    {rest : List (Ambient × Request)}
    (hput : r.endpoint.storeCall = some (ns, .putBlob sectionRevisions body))
    (hanswer : (store.serve c state amb r).1 = .ok response)
    (hlast : (store.serve c state amb r).2.Spared c state ns (·.writes .blob) rest)
    (hactive : (store.after c state amb r rest ns).deleted = false)
    (hget : r'.endpoint.storeCall = some (ns, .getBlob)) :
    ∃ etag, ((store.after c state amb r rest).serve c state amb' r').1 =
        .ok (.payload { contentType := oxideContentType, etag := etag, body := body }) ∧
      ((store.serve c state amb r).2.Spared c state ns (·.writes .metadata) rest →
        etag = parseHeaderValue (amb.newUuid 0))
  /-- The record carries over what the write does not say. -/
  records {store : Store} {amb amb' : Ambient} {r r' : Request} {ns : String}
    {body : MetadataWriteRequest} {response : Response} {rest : List (Ambient × Request)}
    (hput : r.endpoint.storeCall = some (ns, .putMetadata body))
    (hanswer : (store.serve c state amb r).1 = .ok response)
    (hlast : (store.serve c state amb r).2.Spared c state ns (·.writes .metadata) rest)
    (hactive : (store.after c state amb r rest ns).deleted = false)
    (hget : r'.endpoint.storeCall = some (ns, .getMetadata)) :
    ((store.after c state amb r rest).serve c state amb' r').1 =
      .ok (.metadata (metadataFromBody state (store ns).metadata body (amb.newUuid 0)
        (c.toRfc3339 (amb.now 2))))
  hides {store : Store} {amb : Ambient} {r : Request} {ns : String} {operation : Operation}
    (hcall : r.endpoint.storeCall = some (ns, operation)) (hsync : operation.permission.isSome)
    (hdeleted : (store ns).deleted = true) :
    (store.serve c state amb r).1 = .error (.notFound s!"Namespace '{ns}' is soft-deleted")
  /-- A restore brings back exactly what the soft delete hid. -/
  restores {store : Store} {amb amb' : Ambient} {r r' : Request} {ns : String}
    {response response' : Response} {rest : List (Ambient × Request)}
    (hdelete : r.endpoint.storeCall = some (ns, .delete false))
    (hanswer : (store.serve c state amb r).1 = .ok response)
    (hhidden : (store.serve c state amb r).2.Spared c state ns (·.reveals) rest)
    (hrestore : r'.endpoint.storeCall = some (ns, .restore))
    (hanswer' : ((store.after c state amb r rest).serve c state amb' r').1 =
      .ok response') :
    ((store.after c state amb r rest).serve c state amb' r').2 ns = store ns
  /-- A purged namespace is as if it had never been used. -/
  purges {store : Store} {amb : Ambient} {r : Request} {ns : String}
    (hdelete : r.endpoint.storeCall = some (ns, .delete true)) :
    (store.serve c state amb r).2 ns = Store.empty ns

section Kept
variable {store : Store} {r : Request} {ns : String}

theorem check_eq_ok {ok : Bool} {e : AppError} {u : Unit} (h : check ok e = .ok u) : ok = true := by
  by_contra hno
  rw [check, if_neg hno] at h
  cases h

/-- The answer of an active namespace is that of the operation itself. -/
theorem store_serve_active {operation : Operation} {outcome : Contents.Outcome} {response : Response}
    (hcall : r.endpoint.storeCall = some (ns, operation))
    (hserve : (store ns).serve c state amb r.headers ns operation = (store ns).ifActive ns outcome)
    (hactive : (store ns).deleted = false) (houtcome : outcome.map (·.1) = .ok response) :
    (store.serve c state amb r).1 = .ok response := by
  rw [Store.serve, hcall]
  dsimp only
  rw [hserve, Contents.ifActive, hactive]
  clear hserve
  cases outcome with
  | error e => cases houtcome
  | ok result => exact houtcome

/-- What the operation leaves, as far as later requests spare it. -/
theorem after_samePart {amb : Ambient} {rest : List (Ambient × Request)} {part : Part} {operation : Operation}
    {response : Response} (hcall : r.endpoint.storeCall = some (ns, operation))
    (hanswer : (store.serve c state amb r).1 = .ok response)
    (hlast : (store.serve c state amb r).2.Spared c state ns (·.writes part) rest) :
    ∃ contents', (store ns).serve c state amb r.headers ns operation = .ok (response, contents') ∧
      Contents.SamePart part contents' (store.after c state amb r rest ns) := by
  obtain ⟨contents', hout, hnext⟩ := store_serve_ok hcall hanswer
  refine ⟨contents', hout, ?_⟩
  have hsame := hlast.samePart
  rw [hnext, Function.update_self] at hsame
  rw [Store.after, hnext]
  exact hsame

end Kept

theorem store_promises (c : Crates) (state : AppState) : Store.Promises c state where
  elsewhere := store_serve_elsewhere
  refused := store_serve_error
  objects := by
    intro store amb amb' r r' ns rawPath rawPath' path body response rest hput hpath hanswer hlast hactive
      hget hpath'
    obtain ⟨contents', hout, hsame⟩ := after_samePart hput hanswer hlast
    have hstored : contents'.objects[path]? = some ⟨body, amb.newUuid 0⟩ := by
      have hleaves : Contents.Leaving (fun contents => contents.objects[path]? = some ⟨body, amb.newUuid 0⟩)
          ((store ns).serve c state amb r.headers ns (.putObject rawPath body)) := by
        refine leaving_bind fun _ _ => leaving_bind fun path' hpath' => leaving_bind fun _ _ =>
          leaving_bind fun _ _ => leaving_bind fun _ _ => leaving_pure ?_
        obtain rfl : path = path' := Except.ok.inj (hpath.symm.trans hpath')
        simp
      exact hleaves _ _ hout
    refine store_serve_active hget rfl hactive ?_
    rw [Contents.getObject, hpath']
    change (.ok (.object ((store.after c state amb r rest ns).objects[path]?.map _)) :
      Except AppError Response) = _
    rw [show (store.after c state amb r rest ns).objects[path]? = _ from Eq.trans hsame hstored]
    rfl
  blobs := by
    intro store amb amb' r r' ns sectionRevisions body response rest hput hanswer hlast hactive hget
    obtain ⟨contents', hout, hsame⟩ := after_samePart hput hanswer hlast
    have hstored : contents'.blob = some body ∧
        contents'.metadata.bind (·.etag) = some (amb.newUuid 0) := by
      have hleaves : Contents.Leaving (fun contents => contents.blob = some body ∧
            contents.metadata.bind (·.etag) = some (amb.newUuid 0))
          ((store ns).serve c state amb r.headers ns (.putBlob sectionRevisions body)) := by
        refine leaving_bind fun _ _ => leaving_bind fun _ _ => leaving_bind fun _ _ =>
          leaving_bind fun _ _ => leaving_pure ?_
        exact ⟨rfl, rfl⟩
      exact hleaves _ _ hout
    refine ⟨((store.after c state amb r rest ns).metadata.bind (·.etag)).bind parseHeaderValue,
      store_serve_active hget rfl hactive ?_, fun hlast' => ?_⟩
    · rw [Contents.getBlob, show (store.after c state amb r rest ns).blob = _ from Eq.trans hsame hstored.1]
      rfl
    · obtain ⟨contents'', hout', hsame'⟩ := after_samePart hput hanswer hlast'
      obtain rfl : contents' = contents'' := by
        rw [hout] at hout'
        exact congrArg Prod.snd (Except.ok.inj hout')
      rw [show (store.after c state amb r rest ns).metadata = _ from hsame', hstored.2]
      rfl
  records := by
    intro store amb amb' r r' ns body response rest hput hanswer hlast hactive hget
    obtain ⟨contents', hout, hsame⟩ := after_samePart hput hanswer hlast
    have hstored : contents'.metadata = some (metadataFromBody state (store ns).metadata body (amb.newUuid 0)
        (c.toRfc3339 (amb.now 2))) := by
      have hleaves : Contents.Leaving (fun contents => contents.metadata = some (metadataFromBody state
            (store ns).metadata body (amb.newUuid 0) (c.toRfc3339 (amb.now 2))))
          ((store ns).serve c state amb r.headers ns (.putMetadata body)) :=
        leaving_bind fun _ _ => leaving_bind fun _ _ => leaving_pure rfl
      exact hleaves _ _ hout
    refine store_serve_active hget rfl hactive ?_
    rw [Contents.getMetadata,
      show (store.after c state amb r rest ns).metadata = _ from Eq.trans hsame hstored]
    rfl
  hides := by
    intro store amb r ns operation hcall hsync hdeleted
    rw [Store.serve, hcall]
    dsimp only
    rw [serve_hidden_sync hdeleted hsync]
  restores := by
    intro store amb amb' r r' ns response response' rest hdelete hanswer hhidden hrestore hanswer'
    obtain ⟨contents', hout, hnext⟩ := store_serve_ok hdelete hanswer
    have hdeleted : (store ns).deleted = false ∧ contents' = { store ns with deleted := true } := by
      have hleaves : Contents.Leaving
          (fun contents' => (store ns).deleted = false ∧ contents' = { store ns with deleted := true })
          ((store ns).serve c state amb r.headers ns (.delete false)) :=
        leaving_bind fun _ hactive => leaving_bind fun _ _ => leaving_bind fun _ _ =>
          leaving_pure ⟨by simpa using check_eq_ok hactive, rfl⟩
      exact hleaves _ _ hout
    obtain ⟨hactive, rfl⟩ := hdeleted
    -- While it is hidden, the contents stay what they are.
    have hkept : store.after c state amb r rest ns = { store ns with deleted := true } := by
      refine hhidden.invariant (J := fun contents => contents = { store ns with deleted := true }) ?_ ?_
      · intro contents amb headers operation hcontents hkind
        exact serve_hidden (by rw [hcontents]) hkind _
      · rw [hnext, Function.update_self]
    obtain ⟨contents'', hout', hnext'⟩ := store_serve_ok hrestore hanswer'
    have hrestored : Contents.Leaving (fun contents => contents = store ns)
        ((store.after c state amb r rest ns).serve c state amb' r'.headers ns .restore) := by
      refine leaving_bind fun _ _ => leaving_bind fun _ _ => leaving_pure ?_
      rw [hkept, ← hactive]
    rw [hnext', Function.update_self]
    exact hrestored _ _ hout'
  purges := by
    intro store amb r ns hdelete
    have hserve : (store ns).serve c state amb r.headers ns (.delete true) =
        .ok (.namespaceDeleted .hard, {}) := rfl
    rw [Store.serve, hdelete]
    dsimp only
    rw [hserve]
    exact Function.update_self ..

end CloudSync

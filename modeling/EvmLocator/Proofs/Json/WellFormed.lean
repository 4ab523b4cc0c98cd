import EvmLocator.Json.Reader
import EvmLocator.Proofs.Table

/-!
# Documents in which no name comes twice

A text may write a member of an object twice, and a value as such is a list of members, so nothing
keeps a name from coming twice.  A document that was read is free of that: an object is put together
as a table when it closes, and a table has one entry for a key.  Where a result is about the members
of an object one by one, it asks for a value of this sort.

The reader holds the values that are complete on a stack, so the invariant is that all of these are
well formed; what the innermost object has so far may still name a member twice.

## Main results

* `wellFormed_step`: one token keeps the values on the stack well formed.
* `wellFormed_of_read`: every document that is read is well formed.
-/

namespace EvmLocator.Json

/-- Whether every object of a value lists each name once. -/
inductive WellFormed : Json → Prop
  | plain {v : Json} (scalar : v.scalar?.isSome = true) : WellFormed v
  | arr {vs : List Json} (items : ∀ v ∈ vs, WellFormed v) : WellFormed (.arr vs)
  | obj {ms : List (String × Json)} (names : (Table.keys ms).Nodup)
      (values : ∀ entry ∈ ms, WellFormed entry.2) : WellFormed (.obj ms)

theorem wellFormed_arr_iff {vs : List Json} :
    (arr vs).WellFormed ↔ ∀ v ∈ vs, v.WellFormed := by
  refine ⟨fun h => ?_, .arr⟩
  cases h with
  | plain scalar => cases scalar
  | arr items => exact items

theorem wellFormed_obj_iff {ms : List (String × Json)} :
    (obj ms).WellFormed ↔ (Table.keys ms).Nodup ∧ ∀ entry ∈ ms, entry.2.WellFormed := by
  refine ⟨fun h => ?_, fun ⟨names, values⟩ => .obj names values⟩
  cases h with
  | plain scalar => cases scalar
  | obj names values => exact ⟨names, values⟩

/-! ## The reader -/

namespace Frame

/-- Whether the parts of an open container are well formed. -/
def WellFormed : Frame → Prop
  | array items => ∀ v ∈ items, v.WellFormed
  | object members _ => ∀ entry ∈ members, entry.2.WellFormed

end Frame

namespace Reading

/-- The containers that are open, the one that waits for more included. -/
def frames : Reading → List Frame
  | value stack => stack
  | firstItem stack => stack
  | firstName stack => stack
  | nextName members stack => .object members "" :: stack
  | colon members name stack => .object members name :: stack
  | afterItem items stack => .array items :: stack
  | afterMember members stack => .object members "" :: stack
  | finished v => [.array [v]]

/-- Whether all values that are complete are well formed. -/
def WellFormed (r : Reading) : Prop :=
  ∀ frame ∈ r.frames, frame.WellFormed

theorem wellFormed_deliver {v : Json} {stack : List Frame} (hv : v.WellFormed)
    (hstack : ∀ frame ∈ stack, frame.WellFormed) : (deliver v stack).WellFormed := by
  cases stack with
  | nil =>
      intro frame hframe
      rw [List.mem_singleton.mp hframe]
      exact List.forall_mem_singleton.mpr hv
  | cons frame stack =>
      obtain ⟨hframe, hrest⟩ := List.forall_mem_cons.mp hstack
      cases frame with
      | array items => exact List.forall_mem_cons.mpr ⟨List.forall_mem_cons.mpr ⟨hv, hframe⟩, hrest⟩
      | object members name =>
          exact List.forall_mem_cons.mpr ⟨List.forall_mem_cons.mpr ⟨hv, hframe⟩, hrest⟩

theorem wellFormed_open? {stack : List Frame} {t : Token} {next : Reading}
    (hstack : ∀ frame ∈ stack, frame.WellFormed) (h : open? stack t = .ok next) :
    next.WellFormed := by
  unfold open? at h
  split at h
  · cases h
    exact hstack
  · cases h
    exact hstack
  · next s =>
      cases h
      exact wellFormed_deliver (.plain (by cases s <;> rfl)) hstack
  · cases h

/-- An object is closed as a table, which has one entry for a name. -/
theorem wellFormed_ofEntries {members : List (String × Json)}
    (h : ∀ entry ∈ members, entry.2.WellFormed) :
    (obj (Table.ofEntries members.reverse)).WellFormed :=
  .obj (Table.nodup_keys_ofEntries _) fun entry hentry =>
    h entry (List.mem_reverse.mp (Table.mem_of_mem_ofEntries hentry))

/-- One token keeps the complete values well formed. -/
theorem wellFormed_step {r next : Reading} {t : Token} (hr : r.WellFormed)
    (h : r.step t = .ok next) : next.WellFormed := by
  -- The cases are the rules of `step`, in its order.
  unfold step at h
  split at h
  · exact wellFormed_open? hr h
  · cases h
    exact wellFormed_deliver (.arr nofun) hr
  · have hempty : Frame.WellFormed (.array []) := fun v hv => absurd hv List.not_mem_nil
    exact wellFormed_open? (List.forall_mem_cons.mpr ⟨hempty, hr⟩) h
  · cases h
    exact wellFormed_deliver (.obj List.nodup_nil nofun) hr
  · cases h
    exact List.forall_mem_cons.mpr ⟨fun entry hentry => absurd hentry List.not_mem_nil, hr⟩
  · cases h
    obtain ⟨hmembers, hstack⟩ := List.forall_mem_cons.mp hr
    exact List.forall_mem_cons.mpr ⟨hmembers, hstack⟩
  · cases h
    exact hr
  · cases h
    exact hr
  · cases h
    obtain ⟨hitems, hstack⟩ := List.forall_mem_cons.mp hr
    exact wellFormed_deliver (.arr fun v hv => hitems v (List.mem_reverse.mp hv)) hstack
  · cases h
    exact hr
  · cases h
    obtain ⟨hmembers, hstack⟩ := List.forall_mem_cons.mp hr
    exact wellFormed_deliver (wellFormed_ofEntries hmembers) hstack
  · cases h

theorem wellFormed_of_run {r : Reading} {ts : List Token} {v : Json} (hr : r.WellFormed)
    (h : r.run ts = .ok v) : v.WellFormed := by
  induction ts generalizing r with
  | nil =>
      cases r with
      | finished w =>
          cases h
          exact hr _ List.mem_cons_self v List.mem_cons_self
      | _ => cases h
  | cons t ts ih =>
      have hnext : ∃ next, r.step t = .ok next ∧ next.run ts = .ok v := by
        cases hstep : r.step t with
        | error e =>
            cases r <;> simp only [run, hstep, bind, Except.bind] at h <;> cases h
        | ok next =>
            refine ⟨next, rfl, ?_⟩
            cases r <;> simpa only [run, hstep, bind, Except.bind] using h
      obtain ⟨next, hstep, hrun⟩ := hnext
      exact ih (wellFormed_step hr hstep) hrun

end Reading

/-- **Every document that is read is well formed.** -/
theorem wellFormed_of_read {s : List Char} {v : Json} (h : read s = .ok v) : v.WellFormed := by
  unfold read at h
  cases hts : tokens s with
  | error e =>
      rw [hts] at h
      cases h
  | ok ts =>
      rw [hts] at h
      exact Reading.wellFormed_of_run (fun _ hframe => absurd hframe List.not_mem_nil) h

end EvmLocator.Json

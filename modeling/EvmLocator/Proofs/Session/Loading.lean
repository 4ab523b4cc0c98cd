import EvmLocator.Proofs.Bytecode.Hex
import EvmLocator.Proofs.Bytecode.Normal
import EvmLocator.Proofs.Outcome
import EvmLocator.Proofs.Table
import EvmLocator.Session.Basic

/-!
# Loading a code

Before its first lookup a session has a table of recorded codes and the registrations that were
made, both lists of entries of which later ones count.  A registration is found under the address
as it is written, a recorded code under any address that differs in case only, and registrations
come first.

What is served must be text.  Its normal form must hold more than the mark, and must spell bytes
behind the mark once the trailer is cut off.  Each of these is a condition on the text alone, and
the first that fails is the one that is reported.

## Main results

* `prepared_eq`: the state of a session before its first lookup.
* `freshCode_iff`: which codes can be loaded and as what, and why the others cannot.
-/

namespace EvmLocator

open Bytecode Instruction

/-! ## Before the first lookup -/

/-- A session that follows a trace and in which creations have been registered. -/
def Session.prepared (provider : Provider) (debug : Bool) (steps : List Json)
    (registrations : List (String × Json)) : Session :=
  registrations.foldl (fun s entry => s.register entry.1 entry.2)
    { Session.fresh provider debug with trace := steps }

theorem foldl_register (registrations : List (String × Json)) {s : Session} (h : s.codes = []) :
    registrations.foldl (fun s entry => s.register entry.1 entry.2) s =
      { s with registered :=
          registrations.foldl (fun t entry => t.put entry.1 entry.2) s.registered } := by
  induction registrations generalizing s with
  | nil => rfl
  | cons entry registrations ih =>
      have hcodes : (s.register entry.1 entry.2).codes = [] := by
        rw [Session.register, h]
        rfl
      rw [List.foldl_cons, ih hcodes, List.foldl_cons, Session.register, h]
      rfl

theorem prepared_eq (provider : Provider) (debug : Bool) (steps : List Json)
    (registrations : List (String × Json)) :
    Session.prepared provider debug steps registrations =
      { provider, debug, trace := steps, registered := Table.ofEntries registrations } := by
  rw [Session.prepared, foldl_register registrations rfl]
  rfl

/-- A session that starts with a trace is prepared. -/
theorem start_eq_prepared {provider : Provider} {debug : Bool} {trace : Json} {steps : List Json}
    (hnull : trace ≠ .null) (h : Trace.stepsOf trace = .ok steps) :
    Session.start provider trace debug = .ok (Session.prepared provider debug steps []) := by
  unfold Session.start
  split
  · exact absurd rfl hnull
  · rw [Session.loadTrace, h]
    rfl

/-! ## The code of an address -/

/-- The code that the entries give for an address, registrations before recorded codes. -/
def servedCode (codes registrations : List (String × Json)) (address : String) : Option Json :=
  match registrations.findRev? fun entry => entry.1 == address with
  | some entry => some entry.2
  | none =>
    (codes.findRev? fun entry => Text.lowerString entry.1 == Text.lowerString address).map Prod.snd

/-- The code of an address as a session loads it that has loaded none. -/
def freshCode (codes registrations : List (String × Json)) (address : String) :
    Except Fault LoadedCode :=
  match servedCode codes registrations address with
  | some code => LoadedCode.ofJson address code
  | none => .error (.fetch address (.refused (.unrecorded address)))

/-- Whether the code of an address is a text that spells bytes, behind its mark and up to its
trailer. -/
structure Loads (codes registrations : List (String × Json)) (address : String)
    (text : List Char) (bytes : List UInt8) : Prop where
  served : ∃ code, servedCode codes registrations address = some code ∧
    LoadedCode.textOf code = .ok text
  nonempty : normalize text ≠ mark
  spells : Spells (body (stripMetadata (normalize text))) bytes

/-- Why the code of an address cannot be loaded. -/
inductive CannotLoad (codes registrations : List (String × Json)) (address : String) :
    Fault → Prop where
  | unrecorded (served : servedCode codes registrations address = none) :
      CannotLoad codes registrations address (.fetch address (.refused (.unrecorded address)))
  | notText {code : Json} {u : Unfit}
      (served : servedCode codes registrations address = some code)
      (other : LoadedCode.textOf code = .error u) :
      CannotLoad codes registrations address (.unfit u)
  | noCode {code : Json} {text : List Char}
      (served : servedCode codes registrations address = some code)
      (isText : LoadedCode.textOf code = .ok text) (empty : normalize text = mark) :
      CannotLoad codes registrations address (.fetch address .noCode)
  | malformed {code : Json} {text : List Char} {e : HexError}
      (served : servedCode codes registrations address = some code)
      (isText : LoadedCode.textOf code = .ok text) (nonempty : normalize text ≠ mark)
      (refused : unhex (body (stripMetadata (normalize text))) = .error e) :
      CannotLoad codes registrations address (.fetch address (.malformed e))

/-- What a session keeps of a code that spells bytes. -/
def LoadedCode.ofBytes (text : List Char) (bytes : List UInt8) : LoadedCode :=
  { bytecode := normalize text
    instructions := sweep 0 bytes
    indexByPc := Instruction.indexByPc (sweep 0 bytes) }

@[simp] theorem bytecode_ofBytes (text : List Char) (bytes : List UInt8) :
    (LoadedCode.ofBytes text bytes).bytecode = normalize text := rfl

@[simp] theorem indexByPc_ofBytes (text : List Char) (bytes : List UInt8) :
    (LoadedCode.ofBytes text bytes).indexByPc = Instruction.indexByPc (sweep 0 bytes) := rfl

/-- Keeping a code, in terms of the bytes that its normal form spells. -/
theorem ofText_eq (address : String) (text : List Char) :
    LoadedCode.ofText address text =
      if normalize text = mark then .error (.fetch address .noCode)
      else match unhex (body (stripMetadata (normalize text))) with
        | .ok bytes => .ok (LoadedCode.ofBytes text bytes)
        | .error e => .error (.fetch address (.malformed e)) := by
  simp only [LoadedCode.ofText, disassemble, normalize_normalize]
  split
  · rfl
  · cases unhex (body (stripMetadata (normalize text))) with
    | ok bytes => rfl
    | error e => rfl

theorem freshCode_of_served {codes registrations : List (String × Json)} {address : String}
    {code : Json} {text : List Char}
    (served : servedCode codes registrations address = some code)
    (htext : LoadedCode.textOf code = .ok text) :
    freshCode codes registrations address = LoadedCode.ofText address text := by
  rw [freshCode, served]
  simp only [LoadedCode.ofJson, htext]

section

variable {codes registrations : List (String × Json)} {address : String}

theorem freshCode_of_loads {text : List Char} {bytes : List UInt8}
    (h : Loads codes registrations address text bytes) :
    freshCode codes registrations address = .ok (LoadedCode.ofBytes text bytes) := by
  obtain ⟨code, hserved, htext⟩ := h.served
  rw [freshCode_of_served hserved htext, ofText_eq, if_neg h.nonempty,
    unhex_eq_ok_iff.mpr h.spells]

theorem freshCode_of_cannotLoad {f : Fault} (h : CannotLoad codes registrations address f) :
    freshCode codes registrations address = .error f := by
  cases h with
  | unrecorded served => rw [freshCode, served]
  | notText served other => simp only [freshCode, served, LoadedCode.ofJson, other]
  | noCode served isText empty =>
      rw [freshCode_of_served served isText, ofText_eq, if_pos empty]
  | malformed served isText nonempty refused =>
      rw [freshCode_of_served served isText, ofText_eq, if_neg nonempty, refused]

theorem loads_or_cannotLoad (codes registrations : List (String × Json)) (address : String) :
    (∃ text bytes, Loads codes registrations address text bytes) ∨
      ∃ f, CannotLoad codes registrations address f := by
  cases hserved : servedCode codes registrations address with
  | none => exact Or.inr ⟨_, .unrecorded hserved⟩
  | some code =>
      cases htext : LoadedCode.textOf code with
      | error u => exact Or.inr ⟨_, .notText hserved htext⟩
      | ok text =>
          by_cases hmark : normalize text = mark
          · exact Or.inr ⟨_, .noCode hserved htext hmark⟩
          · cases hbytes : unhex (body (stripMetadata (normalize text))) with
            | error e => exact Or.inr ⟨_, .malformed hserved htext hmark hbytes⟩
            | ok bytes =>
                exact Or.inl
                  ⟨text, bytes, ⟨code, hserved, htext⟩, hmark, unhex_eq_ok_iff.mp hbytes⟩

/-- A code is loaded exactly if it is text that spells bytes, and otherwise the reason is
answered. -/
theorem freshCode_iff (codes registrations : List (String × Json)) (address : String) :
    (∀ loaded, freshCode codes registrations address = .ok loaded ↔
      ∃ text bytes, Loads codes registrations address text bytes ∧
        loaded = LoadedCode.ofBytes text bytes) ∧
      ∀ f, freshCode codes registrations address = .error f ↔
        CannotLoad codes registrations address f := by
  refine iff_of_exhaustive ?_ (fun f => freshCode_of_cannotLoad) ?_
  · rintro loaded ⟨text, bytes, hloads, rfl⟩
    exact freshCode_of_loads hloads
  · rcases loads_or_cannotLoad codes registrations address with ⟨text, bytes, hloads⟩ | hcannot
    · exact Or.inl ⟨_, text, bytes, hloads, rfl⟩
    · exact Or.inr hcannot

/-- The provider of a prepared session, and its registrations, serve the code of an address. -/
theorem servedCode_eq (codes registrations : List (String × Json)) (address : String) :
    servedCode codes registrations address =
      match (Table.ofEntries registrations).get? address with
      | some code => some code
      | none => Table.get? (Text.lowerString address)
          (Table.ofEntries (codes.map fun entry => (Text.lowerString entry.1, entry.2))) := by
  rw [servedCode, Table.get?_ofEntries, Table.get?_ofEntries]
  cases registrations.findRev? fun entry => entry.1 == address with
  | some entry => rfl
  | none =>
      simp only [List.findRev?_eq_find?_reverse, ← List.map_reverse, List.find?_map,
        Option.map_map, Option.map_none]
      rfl

end

end EvmLocator

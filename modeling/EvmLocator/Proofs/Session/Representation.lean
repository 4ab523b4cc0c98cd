import EvmLocator.Proofs.Address
import EvmLocator.Proofs.Instruction.Sweep
import EvmLocator.Proofs.Session.Loading
import EvmLocator.Proofs.Session.Moves

/-!
# What a session keeps

The tables of a session are filled by different operations and emptied by others, and some
operations fail halfway.  Still their entries always mean the same.  A loaded code stands under a
key, and it is its bytecode: in normal form, of something, with the instructions of its sweep and
the index of each under its program counter.  A source map stands under the key of an address, never
under a token.  And what is loaded under a token agrees with what is registered for it.

The last of these is the delicate one.  A code of the provider may be loaded under a token, and a
registration that came after it would contradict it if registering did not erase the loaded code.
A lookup that waits for the provider while nothing is registered cannot break it either, since
nothing is registered until it has resumed.

## Main results

* `WellFormed.move`: every move keeps what the tables mean.
* `registered_run`: what is registered is what was registered last.
* `wellFormed_run`: the tables mean what they should after any operations.
-/

namespace EvmLocator

open Bytecode Instruction

/-! ## Loaded codes -/

/-- Whether a loaded code is what its bytecode says. -/
structure LoadedCode.Exact (code : LoadedCode) : Prop where
  normal : normalize code.bytecode = code.bytecode
  nonempty : code.bytecode ≠ mark
  swept : ∃ bytes, Spells (body (stripMetadata code.bytecode)) bytes ∧
    code.instructions = sweep 0 bytes
  indexed : ∀ pc n, Table.get? pc code.indexByPc = some n ↔
    ∃ i, code.instructions[n]? = some i ∧ i.pc = pc

theorem LoadedCode.ofText_eq_ok_iff {address : String} {text : List Char} {loaded : LoadedCode} :
    LoadedCode.ofText address text = .ok loaded ↔
      normalize text ≠ mark ∧ ∃ bytes, Spells (body (stripMetadata (normalize text))) bytes ∧
        loaded = LoadedCode.ofBytes text bytes := by
  rw [ofText_eq]
  by_cases hmark : normalize text = mark
  · simp [hmark]
  · rw [if_neg hmark]
    cases hbytes : unhex (body (stripMetadata (normalize text))) with
    | error e =>
        have hnone : ∀ bytes, ¬ Spells (body (stripMetadata (normalize text))) bytes := by
          intro bytes hspells
          rw [unhex_eq_ok_iff.mpr hspells] at hbytes
          cases hbytes
        simp [hnone]
    | ok bytes =>
        simp only [Except.ok.injEq]
        constructor
        · rintro rfl
          exact ⟨hmark, bytes, unhex_eq_ok_iff.mp hbytes, rfl⟩
        · rintro ⟨-, bytes', hspells, rfl⟩
          rw [unhex_eq_ok_iff.mpr hspells] at hbytes
          cases hbytes
          rfl

theorem LoadedCode.ofJson_eq_ok_iff {address : String} {code : Json} {loaded : LoadedCode} :
    LoadedCode.ofJson address code = .ok loaded ↔
      ∃ text, LoadedCode.textOf code = .ok text ∧ LoadedCode.ofText address text = .ok loaded := by
  unfold LoadedCode.ofJson
  cases LoadedCode.textOf code with
  | error u => simp
  | ok text => simp

theorem LoadedCode.exact_of_ofText {address : String} {text : List Char} {loaded : LoadedCode}
    (h : LoadedCode.ofText address text = .ok loaded) : loaded.Exact := by
  obtain ⟨hmark, bytes, hspells, rfl⟩ := LoadedCode.ofText_eq_ok_iff.mp h
  exact
    { normal := normalize_normalize text
      nonempty := hmark
      swept := ⟨bytes, hspells, rfl⟩
      indexed := fun pc n => get?_indexByPc_sweep }

theorem LoadedCode.bytecode_of_ofText {address : String} {text : List Char} {loaded : LoadedCode}
    (h : LoadedCode.ofText address text = .ok loaded) : loaded.bytecode = normalize text := by
  obtain ⟨-, bytes, -, rfl⟩ := LoadedCode.ofText_eq_ok_iff.mp h
  exact bytecode_ofBytes text bytes

/-! ## Sessions -/

namespace Session

/-- Whether the tables of a session mean what they should. -/
structure WellFormed (s : Session) : Prop where
  codes : ∀ k loaded, (k, loaded) ∈ s.codes → Address.key k = k ∧ loaded.Exact
  maps : ∀ k m, (k, m) ∈ s.maps → Text.lowerString k = k ∧ Address.isCreation k = false
  registered : ∀ token code loaded, Address.isCreation token = true →
    s.registered.get? token = some code → s.codes.get? token = some loaded →
      ∃ text, LoadedCode.textOf code = .ok text ∧ loaded.bytecode = normalize text

theorem wellFormed_fresh (provider : Provider) (debug : Bool) :
    (Session.fresh provider debug).WellFormed where
  codes := fun k loaded h => by cases h
  maps := fun k m h => by cases h
  registered := fun token code loaded _ h => by cases h

variable {op : Operation} {s s' : Session}

theorem WellFormed.load (h : s.WellFormed) {address : String} {code : Json} {loaded : LoadedCode}
    (hserved : s.served address = .ok code) (hreads : LoadedCode.ofJson address code = .ok loaded) :
    WellFormed { s with codes := s.codes.put (Address.key address) loaded } := by
  obtain ⟨text, htext, hload⟩ := LoadedCode.ofJson_eq_ok_iff.mp hreads
  refine { codes := ?_, maps := h.maps, registered := ?_ }
  · intro k found hfound
    rcases Table.mem_put hfound with hfound | ⟨rfl, rfl⟩
    · exact h.codes k found hfound
    · exact ⟨Address.key_key address, LoadedCode.exact_of_ofText hload⟩
  · intro token registered found htoken hregistered hfound
    rw [Table.get?_put] at hfound
    split at hfound
    · next hkey =>
        -- What is loaded under a token is loaded for the token, and so from its registration.
        have hkey : Address.key address = token := eq_of_beq hkey
        have hcreation : Address.isCreation address = true := by
          rw [← Address.isCreation_key, hkey, htoken]
        rw [Address.key_of_isCreation hcreation] at hkey
        have hregistered : s.served token = .ok registered := served_of_registered hregistered
        rw [hkey, hregistered, Except.ok.injEq] at hserved
        rw [← Option.some.inj hfound, hserved]
        exact ⟨text, htext, LoadedCode.bytecode_of_ofText hload⟩
    · exact h.registered token registered found htoken hregistered hfound

theorem WellFormed.keepMap (h : s.WellFormed) {address : String}
    (hdeployed : Address.isCreation address = false) (m : MatchedMap) :
    WellFormed { s with maps := s.maps.put (Address.key address) m } := by
  refine { codes := h.codes, maps := ?_, registered := h.registered }
  intro k found hfound
  rcases Table.mem_put hfound with hfound | ⟨rfl, rfl⟩
  · exact h.maps k found hfound
  · exact ⟨Address.lowerString_key hdeployed, by rw [Address.isCreation_key, hdeployed]⟩

theorem WellFormed.register (h : s.WellFormed) (token : String) (code : Json) :
    (s.register token code).WellFormed := by
  refine { codes := ?_, maps := h.maps, registered := ?_ }
  · intro k loaded hloaded
    exact h.codes k loaded (Table.mem_of_mem_erase hloaded)
  · intro token' code' loaded htoken hregistered hloaded
    by_cases hsame : token = token'
    · subst hsame
      have hgone : Table.get? token (s.register token code).codes = none :=
        Table.get?_erase_self token s.codes
      rw [hgone] at hloaded
      cases hloaded
    · have hcodes : Table.get? token' (s.register token code).codes = Table.get? token' s.codes :=
        Table.get?_erase_of_ne hsame s.codes
      have hkept : Table.get? token' (s.register token code).registered =
          Table.get? token' s.registered := Table.get?_put_of_ne hsame code s.registered
      rw [hcodes] at hloaded
      rw [hkept] at hregistered
      exact h.registered token' code' loaded htoken hregistered hloaded

/-- Every move keeps what the tables mean. -/
theorem WellFormed.move (h : s.WellFormed) (hmove : Moves op s s') : s'.WellFormed := by
  cases hmove with
  | load asked served reads => exact h.load served reads
  | keepMap asked deployed loaded resolves found => exact h.keepMap deployed _
  | identify asked deployed => exact h.keepMap deployed _
  | loadTrace asked reads =>
      exact
        { codes := fun k loaded hmem => by cases hmem
          maps := h.maps
          registered := fun token code loaded _ hmem => by cases hmem }
  | register asked => exact h.register _ _
  | record asked => exact ⟨h.codes, h.maps, h.registered⟩
  | clearCache asked =>
      exact
        { codes := h.codes
          maps := fun k m hmem => by cases hmem
          registered := h.registered }

/-! ## Registrations -/

/-- The code that the last of some operations to register a token registered for it. -/
def lastRegistration (token : String) : List Operation → Option Json
  | [] => none
  | .register name code :: ops =>
    (lastRegistration token ops).or (if name = token then some code else none)
  | _ :: ops => lastRegistration token ops

theorem registered_loadTrace {trace : Json} {after : Session} (h : s.loadTrace trace = .ok after) :
    after.registered = [] := by
  unfold loadTrace at h
  split at h
  · cases h
    rfl
  · cases h

theorem lastRegistration_cons (token : String) (op : Operation) (ops : List Operation) :
    lastRegistration token (op :: ops) =
      (lastRegistration token ops).or (lastRegistration token [op]) := by
  cases op with
  | register name code => simp only [lastRegistration, Option.none_or]
  | _ => simp only [lastRegistration, Option.or_none]

/-- What is registered after an operation it has registered, or it was registered before. -/
theorem registered_apply {token : String} {code : Json}
    (h : (s.apply op).session.registered.get? token = some code) :
    lastRegistration token [op] = some code ∨
      lastRegistration token [op] = none ∧ s.registered.get? token = some code := by
  by_cases hinput : op.isInput = true
  · cases op with
    | register name registered =>
        have hput : Table.get? token (s.registered.put name registered) = some code := h
        rw [Table.get?_put] at hput
        simp only [lastRegistration, Option.none_or]
        by_cases hname : name = token
        · simp only [hname, BEq.rfl, ↓reduceIte] at hput
          exact Or.inl (by rw [if_pos hname, hput])
        · simp only [beq_eq_false_iff_ne.mpr hname, Bool.false_eq_true, ↓reduceIte] at hput
          exact Or.inr ⟨if_neg hname, hput⟩
    | loadTrace trace =>
        refine Or.inr ⟨rfl, ?_⟩
        simp only [apply] at h
        split at h
        · next after hafter =>
            rw [registered_loadTrace hafter] at h
            cases h
        · exact h
    | record address json => exact Or.inr ⟨rfl, h⟩
    | _ => cases hinput
  · rw [(evolves_apply s op).registered_eq (Bool.not_eq_true _ ▸ hinput)] at h
    cases op with
    | register name registered => exact absurd rfl hinput
    | _ => exact Or.inr ⟨rfl, h⟩

/-- What is registered was registered last by the operations, or before them. -/
theorem registered_run {token : String} {code : Json} (ops : List Operation)
    (h : (s.run ops).registered.get? token = some code) :
    lastRegistration token ops = some code ∨
      lastRegistration token ops = none ∧ s.registered.get? token = some code := by
  induction ops generalizing s with
  | nil => exact Or.inr ⟨rfl, h⟩
  | cons op ops ih =>
      rw [lastRegistration_cons]
      rcases ih h with hlast | ⟨hlast, hafter⟩
      · exact Or.inl (by rw [hlast, Option.some_or])
      · rw [hlast, Option.none_or]
        exact registered_apply hafter

/-- **What a session keeps.**  After any operations the tables mean what they should, and a code
that is loaded under a registered token is the one that was registered last for it. -/
theorem wellFormed_run (provider : Provider) (debug : Bool) (ops : List Operation) :
    ((Session.fresh provider debug).run ops).WellFormed ∧
      ∀ token loaded, Address.isCreation token = true →
        (((Session.fresh provider debug).run ops).registered.get? token).isSome = true →
        ((Session.fresh provider debug).run ops).codes.get? token = some loaded →
          ∃ code text, lastRegistration token ops = some code ∧
            LoadedCode.textOf code = .ok text ∧ loaded.bytecode = normalize text := by
  have hkept : ((Session.fresh provider debug).run ops).WellFormed :=
    run_induction (fun op _ s s' hmove h => h.move hmove) (wellFormed_fresh provider debug)
  refine ⟨hkept, ?_⟩
  intro token loaded htoken hregistered hloaded
  obtain ⟨code, hcode⟩ := Option.isSome_iff_exists.mp hregistered
  obtain ⟨text, htext, hbytecode⟩ := hkept.registered token code loaded htoken hcode hloaded
  rcases registered_run ops hcode with hlast | ⟨-, hbefore⟩
  · exact ⟨code, text, hlast, htext, hbytecode⟩
  · cases hbefore

end Session

end EvmLocator

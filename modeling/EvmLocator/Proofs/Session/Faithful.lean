import EvmLocator.Proofs.Address
import EvmLocator.Proofs.Session.Moves
import EvmLocator.Proofs.Table

/-!
# What is kept comes from the provider

The codes and the source maps that a session keeps for deployed addresses come from its provider,
as long as nothing else is put in their place.  A code could also be registered for a deployed
address, a contract could be attributed to a code that is handed in, and the provider could be told
a new code.  Without these three (`isOrdinary`), what is kept is faithful to the provider: a code
that is kept under the key of an address is the one that the provider gives for every spelling of
the address, and no source map is kept for an address without such a code.

Nothing is said of codes under creation tokens, which may be those of earlier registrations.

## Main results

* `Faithful.move`: a move of an ordinary operation keeps a session faithful.
* `Faithful.apply`: so does an ordinary operation.
-/

namespace EvmLocator

/-! ## Providers that compare addresses by their keys -/

theorem Address.isCreation_eq_of_key {a b : String} (h : key a = key b) :
    isCreation a = isCreation b := by
  rw [← isCreation_key a, h, isCreation_key]

/-- Whether a provider gives the same code for every spelling of an address. -/
def Provider.CaseBlind (p : Provider) : Prop :=
  ∀ {a b : String} {code : Json}, Address.isCreation a = false → Address.key a = Address.key b →
    p.fetch a = .ok code → p.fetch b = .ok code

theorem Provider.caseBlind_recorded (codes : Table String Json) : (recorded codes).CaseBlind := by
  intro a b code ha hkey hfetch
  have hb : Address.isCreation b = false := by rw [← Address.isCreation_eq_of_key hkey, ha]
  rw [Address.key_of_not_isCreation ha, Address.key_of_not_isCreation hb] at hkey
  simp only [fetch, ← hkey] at hfetch ⊢
  cases hcode : codes.get? (Text.lowerString a) with
  | none =>
      rw [hcode] at hfetch
      cases hfetch
  | some found =>
      rw [hcode] at hfetch
      exact hfetch

/-- What a code is read as does not depend on the address that it is read for. -/
theorem LoadedCode.ofJson_address {a b : String} {code : Json} {loaded : LoadedCode}
    (h : ofJson a code = .ok loaded) : ofJson b code = .ok loaded := by
  unfold ofJson at h ⊢
  cases htext : textOf code with
  | error u =>
      rw [htext] at h
      cases h
  | ok text =>
      rw [htext] at h
      simp only [ofText] at h ⊢
      split at h
      · cases h
      · next hmark =>
          rw [if_neg hmark]
          cases hbytes : disassemble (Bytecode.normalize text) with
          | error e =>
              rw [hbytes] at h
              cases h
          | ok instructions =>
              rw [hbytes] at h
              exact h

/-! ## Ordinary operations -/

/-- Whether an operation leaves it to the provider which code a deployed address has, and to the
lookups which source map is kept for it. -/
def Operation.isOrdinary : Operation → Bool
  | .register token _ => Address.isCreation token
  | .record _ _ => false
  | .identify _ _ _ => false
  | _ => true

namespace Session

/-- Whether what a session keeps for deployed addresses comes from its provider. -/
structure Faithful (s : Session) : Prop where
  blind : s.provider.CaseBlind
  tokens : ∀ token code, s.registered.get? token = some code → Address.isCreation token = true
  code : ∀ address loaded, Address.isCreation address = false →
    s.codes.get? (Address.key address) = some loaded →
      ∃ code, s.provider.fetch address = .ok code ∧ LoadedCode.ofJson address code = .ok loaded
  map : ∀ address m, s.maps.get? (Address.key address) = some m →
    Address.isCreation address = false ∧
      ∃ code loaded, s.provider.fetch address = .ok code ∧
        LoadedCode.ofJson address code = .ok loaded

theorem faithful_fresh {provider : Provider} (h : provider.CaseBlind) (debug : Bool)
    (steps : List Json) : Faithful { Session.fresh provider debug with trace := steps } where
  blind := h
  tokens := fun token code hregistered => by cases hregistered
  code := fun address loaded _ hloaded => by cases hloaded
  map := fun address m hm => by cases hm

section

variable {s s' : Session} {op : Operation} {address : String}

/-- Where codes are registered for tokens only, none is registered for a deployed address. -/
theorem registered_eq_none_of_tokens
    (h : ∀ token code, s.registered.get? token = some code → Address.isCreation token = true)
    (hdeployed : Address.isCreation address = false) : s.registered.get? address = none := by
  cases hregistered : s.registered.get? address with
  | none => rfl
  | some code =>
      have htoken := h address code hregistered
      rw [hdeployed] at htoken
      cases htoken

theorem Faithful.registered_eq_none (h : s.Faithful)
    (hdeployed : Address.isCreation address = false) : s.registered.get? address = none :=
  registered_eq_none_of_tokens h.tokens hdeployed

/-- A deployed address is served by the provider. -/
theorem Faithful.served_eq (h : s.Faithful) (hdeployed : Address.isCreation address = false) :
    s.served address = s.provider.fetch address :=
  served_of_not_registered (h.registered_eq_none hdeployed)

/-! ## What the moves keep -/

/-- What is served for an address is the provider's code for its other spellings, too. -/
theorem Faithful.fetch_eq_of_key (h : s.Faithful) {code : Json} {loaded : LoadedCode}
    (hserved : s.served address = .ok code) (hreads : LoadedCode.ofJson address code = .ok loaded)
    {other : String} (hother : Address.isCreation other = false)
    (hkey : Address.key address = Address.key other) :
    s.provider.fetch other = .ok code ∧ LoadedCode.ofJson other code = .ok loaded := by
  have hdeployed : Address.isCreation address = false := by
    rw [Address.isCreation_eq_of_key hkey, hother]
  rw [h.served_eq hdeployed] at hserved
  exact ⟨h.blind hdeployed hkey hserved, LoadedCode.ofJson_address hreads⟩

theorem Faithful.load (h : s.Faithful) {code : Json} {loaded : LoadedCode}
    (hserved : s.served address = .ok code)
    (hreads : LoadedCode.ofJson address code = .ok loaded) :
    Faithful { s with codes := s.codes.put (Address.key address) loaded } := by
  refine { blind := h.blind, tokens := h.tokens, code := ?_, map := h.map }
  intro other found hother hfound
  rw [Table.get?_put] at hfound
  split at hfound
  · next hkey =>
      cases hfound
      exact ⟨code, h.fetch_eq_of_key hserved hreads hother (eq_of_beq hkey)⟩
  · exact h.code other found hother hfound

theorem Faithful.keepMap (h : s.Faithful) {loaded : LoadedCode}
    (hdeployed : Address.isCreation address = false)
    (hloaded : s.codes.get? (Address.key address) = some loaded) (m : MatchedMap) :
    Faithful { s with maps := s.maps.put (Address.key address) m } := by
  refine { blind := h.blind, tokens := h.tokens, code := h.code, map := ?_ }
  intro other m' hm'
  rw [Table.get?_put] at hm'
  split at hm'
  · next hkey =>
      have hkey : Address.key address = Address.key other := eq_of_beq hkey
      rw [Address.isCreation_eq_of_key hkey] at hdeployed
      rw [hkey] at hloaded
      obtain ⟨code, hcode⟩ := h.code other loaded hdeployed hloaded
      exact ⟨hdeployed, code, loaded, hcode⟩
  · exact h.map other m' hm'

/-- Registering the code of a creation forgets no code of a deployed address. -/
theorem codes_register {token : String} (htoken : Address.isCreation token = true) (code : Json)
    (hdeployed : Address.isCreation address = false) :
    (s.register token code).codes.get? (Address.key address) =
      s.codes.get? (Address.key address) := by
  apply Table.get?_erase_of_ne
  intro hsame
  rw [hsame, Address.isCreation_key, hdeployed] at htoken
  cases htoken

/-- Registering the code of a creation leaves only creations registered. -/
theorem tokens_register {token : String} (htoken : Address.isCreation token = true) (code : Json)
    (h : ∀ other found, s.registered.get? other = some found → Address.isCreation other = true)
    (other : String) (found : Json)
    (hfound : (s.register token code).registered.get? other = some found) :
    Address.isCreation other = true := by
  by_cases hsame : token = other
  · rwa [← hsame]
  · have hkept : s.registered.get? other = some found := by
      rw [← hfound]
      exact (Table.get?_put_of_ne hsame code s.registered).symm
    exact h other found hkept

theorem Faithful.register (h : s.Faithful) {token : String}
    (htoken : Address.isCreation token = true) (code : Json) :
    (s.register token code).Faithful := by
  refine
    { blind := h.blind, tokens := tokens_register htoken code h.tokens, code := ?_, map := h.map }
  intro other loaded hdeployed hloaded
  rw [codes_register htoken code hdeployed] at hloaded
  exact h.code other loaded hdeployed hloaded

/-- A move of an ordinary operation keeps a session faithful. -/
theorem Faithful.move (h : s.Faithful) (hop : op.isOrdinary = true) (hmove : Moves op s s') :
    s'.Faithful := by
  cases hmove with
  | load asked served reads => exact h.load served reads
  | keepMap asked deployed loaded resolves found => exact h.keepMap deployed loaded _
  | identify asked deployed =>
      subst asked
      cases hop
  | loadTrace asked reads =>
      exact
        { blind := h.blind
          tokens := fun token code hregistered => by cases hregistered
          code := fun address loaded _ hloaded => by cases hloaded
          map := h.map }
  | register asked =>
      subst asked
      exact h.register hop _
  | record asked =>
      subst asked
      cases hop
  | clearCache asked =>
      exact
        { blind := h.blind
          tokens := h.tokens
          code := h.code
          map := fun address m hm => by cases hm }

theorem Faithful.apply (h : s.Faithful) (hop : op.isOrdinary = true) :
    (s.apply op).session.Faithful :=
  apply_induction (fun _ _ hmove hs => hs.move hop hmove) h

end

/-! ## A session to look at -/

namespace Sample

/-- The codes of a contract: the deployed one is two pushes and an addition. -/
def contract : Contract :=
  { name := "Foo"
    creation := some
      { object := "60016002", sourceMap := some "7:1:0:-", generatedSources := none
        immutables := [], links := [] }
    deployed := some
      { object := "6001600201", sourceMap := some "0:10:0:-;3:2:0:-;0:5:0:-"
        generatedSources := none, immutables := [], links := [] } }

def source : CatalogSource :=
  .catalog { files := [("A.sol", [("Foo", contract)])] }

def codes : List (String × Json) :=
  [("0xabc", .str "0x6001600201")]

def steps : List Json :=
  [.obj [("pc", .int 0)], .obj [("pc", .int 2)], .obj [("pc", .int 4)]]

/-- The lookup of the addition. -/
def lookup : Lookup :=
  { address := "0xabc", target := .step (.num 2), catalog := source }

/-- Where the addition comes from. -/
def location : Location :=
  { start := some 0, length := some 5, file := some 0, jump := some "-" }

end Sample

end Session

end EvmLocator

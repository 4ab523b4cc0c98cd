import EvmLocator.Catalog.Basic
import EvmLocator.Proofs.Table

/-!
# The schema of a compiler output

A schema says which values may stand where in a document, and a document that breaks it may do so
at several places.  A `Rule` is both: the values that follow it, and the faults of a value in the
order in which they are met.  The order of the faults is that of the rule: members that a rule names
come in the order in which it names them, all members of an object and all items of a list in the
order of the document.

The two belong together by the laws that a rule carries.  A value has no faults exactly if it
follows the rule, and each fault is of the value that its path leads to (`Leads`), if one must stand
there and does not, of its absence.  Rules are put together from few forms, so the laws are shown
once for each form and hold of the schema.

No reader occurs here.

## Main definitions

* `Rule`, `MemberRule`: what a value or the members of an object must be, and what is wrong else.
* `Schema.contracts`, `Schema.sources`: the two sections of a compiler output.
* `Schema.IsOutput`, `Schema.outputFaults`: a compiler output as a whole.
-/

namespace EvmLocator

/-! ## Places in a document -/

/-- Where a path leads that begins at a value and is spelled out from its own path on: to a value,
or to a member that is absent. -/
inductive Leads : Path → Json → Path → Option Json → Prop
  | here (path : Path) (v : Json) : Leads path v path (some v)
  | member {path p : Path} {ms : List (String × Json)} {name : String} {v : Json} {u : Option Json}
      (mem : (name, v) ∈ ms) (rest : Leads (.member path name) v p u) : Leads path (.obj ms) p u
  | absent {path : Path} {ms : List (String × Json)} {name : String}
      (missing : Table.get? name ms = none) : Leads path (.obj ms) (.member path name) none
  | item {path p : Path} {vs : List Json} {i : Nat} {v : Json} {u : Option Json}
      (get : vs[i]? = some v) (rest : Leads (.item path i) v p u) : Leads path (.arr vs) p u

/-- Whether a value counts as an integer. -/
def IsInteger (v : Json) : Prop :=
  (∃ n, v = .int n) ∨ ∃ b, v = .bool b

/-- Whether an object has an integer under a name. -/
def HasInteger (name : String) (ms : List (String × Json)) : Prop :=
  ∃ v, Table.get? name ms = some v ∧ IsInteger v

/-- What a fault says of the value that it is about, or of its absence. -/
inductive SchemaFault.Concerns : SchemaFault → Option Json → Prop
  | notAnObject {v : Json} (not : ∀ ms, v ≠ .obj ms) : Concerns (.notAnObject v.kindWord) (some v)
  | notAString {v : Json} (not : ∀ s, v ≠ .str s) : Concerns (.notAString v.kindWord) (some v)
  | notAList {v : Json} (not : ∀ vs, v ≠ .arr vs) : Concerns (.notAList v.kindWord) (some v)
  | notASourceList {v : Json} (not : ∀ vs, v ≠ .arr vs) : Concerns .notASourceList (some v)
  | boundsNotIntegers {ms : List (String × Json)}
      (not : ¬ (HasInteger "start" ms ∧ HasInteger "length" ms)) :
      Concerns .boundsNotIntegers (some (.obj ms))
  | idNotAnInteger {u : Option Json} (not : ∀ v, u = some v → ¬ IsInteger v) :
      Concerns .idNotAnInteger u

/-- Whether an error is about what stands, or does not stand, at its path in a value. -/
def SchemaError.Names (path : Path) (v : Json) (e : SchemaError) : Prop :=
  ∃ u, Leads path v e.path u ∧ e.fault.Concerns u

theorem isSome_ofJson?_iff {v : Json} : (Integer.ofJson? v).isSome = true ↔ IsInteger v := by
  unfold IsInteger
  cases v <;> simp [Integer.ofJson?]

theorem isSome_bind_ofJson?_iff {name : String} {ms : List (String × Json)} :
    ((Table.get? name ms).bind Integer.ofJson?).isSome = true ↔ HasInteger name ms := by
  unfold HasInteger
  cases Table.get? name ms with
  | none => simp
  | some v => simp [isSome_ofJson?_iff]

instance (name : String) (ms : List (String × Json)) : Decidable (HasInteger name ms) :=
  decidable_of_iff _ isSome_bind_ofJson?_iff

/-! ## Rules -/

/-- What a value must be, and its faults at a path if it is not. -/
structure Rule where
  Holds : Json → Prop
  faults : Path → Json → List SchemaError
  faults_eq_nil_iff : ∀ path v, faults path v = [] ↔ Holds v
  names_of_mem : ∀ path v, ∀ e ∈ faults path v, e.Names path v

/-- What the members of an object must be, and the faults of the object at a path if they are not
that. -/
structure MemberRule where
  Holds : List (String × Json) → Prop
  faults : Path → List (String × Json) → List SchemaError
  faults_eq_nil_iff : ∀ path ms, faults path ms = [] ↔ Holds ms
  names_of_mem : ∀ path ms, ∀ e ∈ faults path ms, e.Names path (.obj ms)

namespace Rule

/-- An object whose members are as a rule says. -/
def object (members : MemberRule) : Rule where
  Holds v := ∃ ms, v = .obj ms ∧ members.Holds ms
  faults
    | path, .obj ms => members.faults path ms
    | path, v => [{ path, fault := .notAnObject v.kindWord }]
  faults_eq_nil_iff := by
    intro path v
    cases v with
    | obj ms => simp [members.faults_eq_nil_iff]
    | _ => simp
  names_of_mem := by
    intro path v e he
    cases v with
    | obj ms => exact members.names_of_mem path ms e he
    | _ =>
        rw [List.mem_singleton.mp he]
        exact ⟨_, .here path _, .notAnObject nofun⟩

/-- A text. -/
def text : Rule where
  Holds v := ∃ s, v = .str s
  faults
    | _, .str _ => []
    | path, v => [{ path, fault := .notAString v.kindWord }]
  faults_eq_nil_iff := by
    intro path v
    cases v <;> simp
  names_of_mem := by
    intro path v e he
    cases v with
    | str s => cases he
    | _ =>
        rw [List.mem_singleton.mp he]
        exact ⟨_, .here path _, .notAString nofun⟩

/-- Null, or a value as a rule says. -/
def orNull (rule : Rule) : Rule where
  Holds v := v = .null ∨ rule.Holds v
  faults
    | _, .null => []
    | path, v => rule.faults path v
  faults_eq_nil_iff := by
    intro path v
    cases v with
    | null => simp
    | _ => simp [rule.faults_eq_nil_iff]
  names_of_mem := by
    intro path v e he
    cases v with
    | null => cases he
    | _ => exact rule.names_of_mem path _ e he

theorem faults_orNull {rule : Rule} {path : Path} {v : Json} (h : v ≠ .null) :
    (orNull rule).faults path v = rule.faults path v := by
  cases v with
  | null => exact absurd rfl h
  | _ => rfl

/-- The faults at a path of the member `name`, if there is one. -/
def memberFaults (rule : Rule) (path : Path) (name : String) (ms : List (String × Json)) :
    List SchemaError :=
  match Table.get? name ms with
  | some v => rule.faults path v
  | none => []

theorem memberFaults_eq_nil_iff {rule : Rule} {path : Path} {name : String}
    {ms : List (String × Json)} :
    rule.memberFaults path name ms = [] ↔ ∀ v, Table.get? name ms = some v → rule.Holds v := by
  unfold memberFaults
  cases Table.get? name ms with
  | none => simp
  | some v => simp [rule.faults_eq_nil_iff]

theorem names_of_mem_memberFaults {rule : Rule} {path : Path} {name : String}
    {ms : List (String × Json)} {e : SchemaError} (h : e ∈ rule.memberFaults path name ms) :
    ∃ v, Table.get? name ms = some v ∧ e.Names path v := by
  unfold memberFaults at h
  cases hv : Table.get? name ms with
  | none => simp [hv] at h
  | some v =>
      simp only [hv] at h
      exact ⟨v, rfl, rule.names_of_mem path v e h⟩

/-- The faults of the items of a list, of which the first has the number `index`. -/
def itemFaults (item : Rule) (path : Path) (index : Nat) (vs : List Json) : List SchemaError :=
  (vs.zipIdx index).flatMap fun entry => item.faults (.item path entry.2) entry.1

theorem itemFaults_eq_nil_iff {item : Rule} {path : Path} {index : Nat} {vs : List Json} :
    item.itemFaults path index vs = [] ↔ ∀ v ∈ vs, item.Holds v := by
  unfold itemFaults
  simp only [List.flatMap_eq_nil_iff, item.faults_eq_nil_iff]
  constructor
  · intro h v hv
    obtain ⟨i, hi⟩ := List.mem_iff_getElem?.mp hv
    exact h (v, index + i) (List.mem_zipIdx_iff_le_and_getElem?_sub.mpr (by simp [hi]))
  · intro h entry hentry
    exact h entry.1 (List.fst_mem_of_mem_zipIdx hentry)

/-- A list whose items are as a rule says; the fault of a value that is no list is given. -/
def list (fault : Json → SchemaFault)
    (concerns : ∀ v, (∀ vs, v ≠ .arr vs) → (fault v).Concerns (some v)) (item : Rule) : Rule where
  Holds v := ∃ vs, v = .arr vs ∧ ∀ w ∈ vs, item.Holds w
  faults
    | path, .arr vs => item.itemFaults path 0 vs
    | path, v => [{ path, fault := fault v }]
  faults_eq_nil_iff := by
    intro path v
    cases v with
    | arr vs => simp [itemFaults_eq_nil_iff]
    | _ => simp
  names_of_mem := by
    intro path v e he
    cases v with
    | arr vs =>
        obtain ⟨⟨w, i⟩, hentry, he⟩ := List.mem_flatMap.mp he
        obtain ⟨u, hleads, hconcerns⟩ := item.names_of_mem _ w e he
        exact ⟨u, .item (List.mem_zipIdx_iff_getElem?.mp hentry) hleads, hconcerns⟩
    | _ =>
        rw [List.mem_singleton.mp he]
        exact ⟨_, .here path _, concerns _ nofun⟩

end Rule

namespace MemberRule

/-- Any members. -/
def anything : MemberRule where
  Holds _ := True
  faults _ _ := []
  faults_eq_nil_iff := by simp
  names_of_mem := by simp

/-- Members as two rules say, of which the first comes first. -/
def both (first second : MemberRule) : MemberRule where
  Holds ms := first.Holds ms ∧ second.Holds ms
  faults path ms := first.faults path ms ++ second.faults path ms
  faults_eq_nil_iff := by
    intro path ms
    rw [List.append_eq_nil_iff, first.faults_eq_nil_iff, second.faults_eq_nil_iff]
  names_of_mem := by
    intro path ms e he
    rcases List.mem_append.mp he with he | he
    · exact first.names_of_mem path ms e he
    · exact second.names_of_mem path ms e he

/-- Members as all rules of a list say, in its order. -/
def all : List MemberRule → MemberRule
  | [] => anything
  | rule :: rest => both rule (all rest)

/-- Every member as a rule says. -/
def each (rule : Rule) : MemberRule where
  Holds ms := ∀ entry ∈ ms, rule.Holds entry.2
  faults path ms := ms.flatMap fun entry => rule.faults (.member path entry.1) entry.2
  faults_eq_nil_iff := by
    intro path ms
    simp only [List.flatMap_eq_nil_iff, rule.faults_eq_nil_iff]
  names_of_mem := by
    intro path ms e he
    obtain ⟨⟨name, v⟩, hentry, he⟩ := List.mem_flatMap.mp he
    obtain ⟨u, hleads, hconcerns⟩ := rule.names_of_mem _ v e he
    exact ⟨u, .member hentry hleads, hconcerns⟩

/-- The member `name` absent, or as a rule says. -/
def optional (name : String) (rule : Rule) : MemberRule where
  Holds ms := ∀ v, Table.get? name ms = some v → rule.Holds v
  faults path ms := rule.memberFaults (.member path name) name ms
  faults_eq_nil_iff := fun _ _ => Rule.memberFaults_eq_nil_iff
  names_of_mem := by
    intro path ms e he
    obtain ⟨v, hv, u, hleads, hconcerns⟩ := Rule.names_of_mem_memberFaults he
    exact ⟨u, .member (Table.mem_of_get? hv) hleads, hconcerns⟩

end MemberRule

/-! ## The schema -/

namespace Schema

/-- The bounds of a region: both are integers, or the region itself is at fault. -/
def bounds : MemberRule where
  Holds ms := HasInteger "start" ms ∧ HasInteger "length" ms
  faults path ms :=
    if HasInteger "start" ms ∧ HasInteger "length" ms then []
    else [{ path, fault := .boundsNotIntegers }]
  faults_eq_nil_iff := by
    intro path ms
    split <;> simp_all
  names_of_mem := by
    intro path ms e he
    split at he
    · cases he
    · next hnot =>
        rw [List.mem_singleton.mp he]
        exact ⟨_, .here path _, .boundsNotIntegers hnot⟩

/-- The id of a generated source: an integer. -/
def integerId : MemberRule where
  Holds ms := HasInteger "id" ms
  faults path ms :=
    if HasInteger "id" ms then [] else [{ path := .member path "id", fault := .idNotAnInteger }]
  faults_eq_nil_iff := by
    intro path ms
    split <;> simp_all
  names_of_mem := by
    intro path ms e he
    split at he
    · cases he
    · next hnot =>
        rw [List.mem_singleton.mp he]
        cases hid : Table.get? "id" ms with
        | none => exact ⟨none, .absent hid, .idNotAnInteger nofun⟩
        | some v =>
            refine ⟨some v, .member (Table.mem_of_get? hid) (.here _ v), .idNotAnInteger ?_⟩
            rintro w ⟨⟩ hw
            exact hnot ⟨v, hid, hw⟩

/-- A region: a start and a length. -/
def region : Rule :=
  .object bounds

/-- The regions of one immutable or of one library. -/
def regions : Rule :=
  .orNull (.list (fun v => .notAList v.kindWord) (fun _ => .notAList) region)

/-- Regions under names. -/
def references : Rule :=
  .object (.each regions)

/-- Regions under the names of files and libraries. -/
def links : Rule :=
  .object (.each references)

/-- A source that the compiler generated. -/
def generatedSource : Rule :=
  .object (.all [integerId, .optional "contents" (.orNull .text)])

/-- The sources that the compiler generated for an artifact. -/
def generatedSources : Rule :=
  .orNull (.list (fun _ => .notASourceList) (fun _ => .notASourceList) generatedSource)

/-- An artifact: its code, its source map, what was generated for it, and its regions. -/
def artifact : Rule :=
  .object (.all
    [.optional "object" (.orNull .text),
      .optional "sourceMap" (.orNull .text),
      .optional "generatedSources" generatedSources,
      .optional "immutableReferences" references,
      .optional "linkReferences" links])

/-- What the compiler gives for the machine: the creation first, then the deployed artifact. -/
def evm : Rule :=
  .object (.all
    [.optional "bytecode" (.orNull artifact), .optional "deployedBytecode" (.orNull artifact)])

def contract : Rule :=
  .object (.optional "evm" evm)

/-- The contracts of one file. -/
def file : Rule :=
  .object (.each contract)

/-- The contracts section: files of contracts. -/
def contracts : Rule :=
  .object (.each file)

/-- The sources section: an object for each source. -/
def sources : Rule :=
  .object (.each (.object .anything))

/-- Whether a value follows the schema of a compiler output. -/
def IsOutput (v : Json) : Prop :=
  ∃ ms, v = .obj ms ∧ (∀ w, Table.get? "sources" ms = some w → sources.Holds w) ∧
    ∀ w, Table.get? "contracts" ms = some w → contracts.Holds w

/-- The faults of a compiler output: those of its sources come first.  The path of a section is its
name alone. -/
def outputFaults : Json → List SchemaError
  | .obj ms =>
    sources.memberFaults (.root "sources") "sources" ms ++
      contracts.memberFaults (.root "contracts") "contracts" ms
  | v => [{ path := .root "output", fault := .notAnObject v.kindWord }]

/-- Whether an error is about what stands at its path in a compiler output. -/
inductive NamesInOutput (output : Json) (e : SchemaError) : Prop
  | output (names : e.Names (.root "output") output)
  | inside {name : String} {v : Json} (present : output.member? name = some v)
      (names : e.Names (.root name) v)

theorem outputFaults_eq_nil_iff {v : Json} : outputFaults v = [] ↔ IsOutput v := by
  unfold IsOutput
  cases v with
  | obj ms => simp [outputFaults, Rule.memberFaults_eq_nil_iff]
  | _ => simp [outputFaults]

theorem names_of_mem_outputFaults {v : Json} {e : SchemaError} (h : e ∈ outputFaults v) :
    NamesInOutput v e := by
  cases v with
  | obj ms =>
      rcases List.mem_append.mp h with h | h
      · obtain ⟨w, hw, hnames⟩ := Rule.names_of_mem_memberFaults h
        exact .inside hw hnames
      · obtain ⟨w, hw, hnames⟩ := Rule.names_of_mem_memberFaults h
        exact .inside hw hnames
  | _ =>
      rw [List.mem_singleton.mp h]
      exact .output ⟨_, .here _ _, .notAnObject nofun⟩

end Schema

end EvmLocator

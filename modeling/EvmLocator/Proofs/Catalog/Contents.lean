import EvmLocator.Catalog.Basic
import EvmLocator.Proofs.Json.Scalar
import EvmLocator.Proofs.Json.WellFormed
import EvmLocator.Proofs.Outcome
import Mathlib.Data.List.Forall2
import Mathlib.Data.List.Nodup

/-!
# What a catalog holds

A code is attributed to the first contract that accounts for it, so a catalog that left out a
contract, took one twice or changed their order would give wrong answers without any sign of it; and
so would an artifact that missed a region.  The readers build a catalog in nested passes over the
document, each of which may fail.  `Outline` says what there is to be found, in one pass and without
any failure: the contracts with their files and names, the artifacts of a contract, the regions of
an artifact and the ids of the sources, all in document order.

What a reader returns is compared with the outline item by item, and the comparison goes up along
the readers: two lists are compared by `List.Forall₂`, which leaves no room for an item that is
dropped, repeated or moved.  The names of contracts and the lookup by name need one thing more, that
an object lists each name once, which holds of every document that is read.

## Main results

* `forall₂_of_members`, `forall₂_of_items`: what reading the parts of a container returns.
* `Artifact.lists_of_read`: the regions of an artifact.
* `Catalog.forall₂_contracts`: the contracts of a catalog.
* `Catalog.contract?_eq_some_iff`: the lookup of a contract.
* `Catalog.sourceName_eq_iff`: the name of a source.
* `Catalog.holds_outline`: all of this, of every compiler output that is accepted.
-/

namespace EvmLocator

/-! ## The outline of a compiler output -/

namespace Json

/-- The members of an object; a value of another kind has none. -/
def members : Json → List (String × Json)
  | obj ms => ms
  | _ => []

/-- The items of a list; a value of another kind has none. -/
def items : Json → List Json
  | arr vs => vs
  | _ => []

theorem member?_obj (name : String) (ms : List (String × Json)) :
    (obj ms).member? name = Table.get? name ms := rfl

/-- The members of the object under a name. -/
def membersAt (name : String) (v : Json) : List (String × Json) :=
  ((v.member? name).map members).getD []

/-- The integer under a name. -/
def integerAt (name : String) (v : Json) : Option Integer :=
  (v.member? name).bind Integer.ofJson?

/-- The value under a name, if it is not null. -/
def presentAt (name : String) (v : Json) : Option Json :=
  match v.member? name with
  | some .null => none
  | found => found

end Json

namespace Outline

/-- The contracts of a compiler output, each with its file and its name. -/
def contracts (output : Json) : List (String × String × Json) :=
  (output.membersAt "contracts").flatMap fun file =>
    file.2.members.map fun entry => (file.1, entry.1, entry.2)

/-- The artifact of a contract: that of its creation, or the deployed one. -/
def artifact? (creation : Bool) (contract : Json) : Option Json :=
  (contract.member? "evm").bind
    (Json.presentAt (if creation then "bytecode" else "deployedBytecode"))

/-- The regions of an artifact whose values are immutables. -/
def immutables (artifact : Json) : List Json :=
  (artifact.membersAt "immutableReferences").flatMap fun entry => entry.2.items

/-- The regions of an artifact whose values are addresses of libraries. -/
def links (artifact : Json) : List Json :=
  (artifact.membersAt "linkReferences").flatMap fun file =>
    file.2.members.flatMap fun library => library.2.items

/-- The sources with an integer for an id. -/
def sources (output : Json) : List (String × Integer) :=
  (output.membersAt "sources").filterMap fun entry =>
    (entry.2.integerAt "id").map fun id => (entry.1, id)

/-- What names the source with an id: the last source of the document with that id; or, if it has
none, the first generated source with that id; or nothing. -/
inductive Names (output : Json) (id : Scalar) (generated : List GeneratedSource) : Json → Prop
  | compiled {before after : List (String × Integer)} {file : String} {n : Integer}
      (split : sources output = before ++ (file, n) :: after) (here : n.toScalar.same id = true)
      (last : ∀ e ∈ after, ¬ e.2.toScalar.same id = true) : Names output id generated (.str file)
  | generated {before after : List GeneratedSource} {g : GeneratedSource}
      (absent : ∀ e ∈ sources output, ¬ e.2.toScalar.same id = true)
      (split : generated = before ++ g :: after) (here : g.id.toScalar.same id = true)
      (first : ∀ h ∈ before, ¬ h.id.toScalar.same id = true) : Names output id generated g.name
  | nothing (absent : ∀ e ∈ sources output, ¬ e.2.toScalar.same id = true)
      (none : ∀ g ∈ generated, ¬ g.id.toScalar.same id = true) : Names output id generated .null

end Outline

/-! ## Lists -/

/-- What is the same of the items is the same of the lists. -/
theorem map_eq_map_of_forall₂ {α β γ : Type} {f : α → γ} {g : β → γ} {xs : List α} {ys : List β}
    (h : List.Forall₂ (fun x y => f x = g y) xs ys) : xs.map f = ys.map g := by
  rwa [← List.forall₂_eq_eq_eq, List.forall₂_map_left_iff, List.forall₂_map_right_iff]

theorem exists_left_of_forall₂ {α β : Type} {R : α → β → Prop} {xs : List α} {ys : List β}
    (h : List.Forall₂ R xs ys) {y : β} (hy : y ∈ ys) : ∃ x ∈ xs, R x y := by
  induction h with
  | nil => cases hy
  | @cons x y' xs ys hxy _ ih =>
      rcases List.mem_cons.mp hy with rfl | hy
      · exact ⟨x, List.mem_cons_self, hxy⟩
      · obtain ⟨z, hz, hzy⟩ := ih hy
        exact ⟨z, List.mem_cons_of_mem _ hz, hzy⟩

/-- The last item with a property: none of those behind it has it. -/
theorem find?_reverse_eq_some_iff {α : Type} {p : α → Bool} {xs : List α} {x : α} :
    xs.reverse.find? p = some x ↔
      ∃ before after, xs = before ++ x :: after ∧ p x = true ∧ ∀ y ∈ after, ¬ p y = true := by
  rw [List.find?_eq_some_iff_append]
  constructor
  · rintro ⟨hx, after, before, hsplit, hlast⟩
    refine ⟨before.reverse, after.reverse, ?_, hx, fun y hy => ?_⟩
    · rw [List.reverse_eq_iff.mp hsplit, List.reverse_append, List.reverse_cons,
        List.append_assoc, List.singleton_append]
    · simpa using hlast y (List.mem_reverse.mp hy)
  · rintro ⟨before, after, hsplit, hx, hlast⟩
    refine ⟨hx, after.reverse, before.reverse, ?_, fun y hy => ?_⟩
    · rw [hsplit, List.reverse_append, List.reverse_cons, List.append_assoc, List.singleton_append]
    · simpa using hlast y (List.mem_reverse.mp hy)

/-! ## What is read of a container -/

namespace Reading

variable {α : Type} {path : Path} {v : Json} {ms : List (String × Json)}

theorem object_eq_ok_iff : object path v = .ok ms ↔ v = .obj ms := by
  cases v <;> simp [object]

theorem forall₂_of_members {read : String → Path → Json → Except SchemaError α}
    {xs : List (String × α)} (h : members read path ms = .ok xs) :
    List.Forall₂ (fun m x => x.1 = m.1 ∧ read m.1 (.member path m.1) m.2 = .ok x.2) ms xs := by
  induction ms generalizing xs with
  | nil =>
      cases h
      exact .nil
  | cons m ms ih =>
      obtain ⟨x, hx, h⟩ := ok_of_bind h
      obtain ⟨later, hlater, h⟩ := ok_of_bind h
      cases h
      exact .cons ⟨rfl, hx⟩ (ih hlater)

theorem forall₂_of_items {read : Path → Json → Except SchemaError α} {index : Nat} {vs : List Json}
    {xs : List α} (h : items read path index vs = .ok xs) :
    List.Forall₂ (fun v x => ∃ p, read p v = .ok x) vs xs := by
  induction vs generalizing index xs with
  | nil =>
      cases h
      exact .nil
  | cons v vs ih =>
      obtain ⟨x, hx, h⟩ := ok_of_bind h
      obtain ⟨later, hlater, h⟩ := ok_of_bind h
      cases h
      exact .cons ⟨_, hx⟩ (ih hlater)

theorem membersAt_eq (name : String) (ms : List (String × Json)) :
    (Json.obj ms).membersAt name = (memberOr name (.obj []) ms).members := by
  rw [Json.membersAt, Json.member?_obj, memberOr]
  cases Table.get? name ms <;> rfl

theorem integerAt_eq (name : String) (ms : List (String × Json)) :
    (Json.obj ms).integerAt name = Integer.ofJson? (memberOr name .null ms) := by
  rw [Json.integerAt, Json.member?_obj, memberOr]
  cases Table.get? name ms <;> rfl

end Reading

open Reading

/-! ## Regions -/

/-- Whether a value spells a region: by its start and its length. -/
structure Region.Spells (v : Json) (r : Region) : Prop where
  start : v.integerAt "start" = some r.start
  length : v.integerAt "length" = some r.length

theorem Region.spells_of_read {path : Path} {v : Json} {r : Region}
    (h : Region.read path v = .ok r) : Region.Spells v r := by
  obtain ⟨ms, hms, h⟩ := ok_of_bind h
  rw [object_eq_ok_iff.mp hms]
  split at h
  · next start length hstart hlength =>
      cases h
      exact ⟨by rw [integerAt_eq, hstart], by rw [integerAt_eq, hlength]⟩
  · cases h

theorem Region.forall₂_of_readAll {path : Path} {v : Json} {regions : List Region}
    (h : Region.readAll path v = .ok regions) : List.Forall₂ Region.Spells v.items regions := by
  cases v with
  | null =>
      cases h
      exact .nil
  | arr vs => exact (forall₂_of_items h).imp fun _ _ ⟨_, hread⟩ => Region.spells_of_read hread
  | _ => cases h

namespace Artifact

/-- Whether the regions of an artifact are those of a document: its immutables, then its links. -/
def Lists (d : Json) (a : Artifact) : Prop :=
  List.Forall₂ Region.Spells (Outline.immutables d ++ Outline.links d) a.wildcards

theorem forall₂_of_readReferences {path : Path} {v : Json} {regions : List Region}
    (h : readReferences path v = .ok regions) :
    List.Forall₂ Region.Spells (v.members.flatMap fun entry => entry.2.items) regions := by
  obtain ⟨ms, hms, h⟩ := ok_of_bind h
  obtain ⟨lists, hlists, h⟩ := ok_of_bind h
  cases h
  rw [object_eq_ok_iff.mp hms]
  exact List.rel_flatMap (forall₂_of_members hlists) fun _ _ hx =>
    Region.forall₂_of_readAll hx.2

theorem forall₂_of_readLinks {path : Path} {v : Json} {regions : List Region}
    (h : readLinks path v = .ok regions) :
    List.Forall₂ Region.Spells
      (v.members.flatMap fun file => file.2.members.flatMap fun library => library.2.items)
      regions := by
  obtain ⟨ms, hms, h⟩ := ok_of_bind h
  obtain ⟨lists, hlists, h⟩ := ok_of_bind h
  cases h
  rw [object_eq_ok_iff.mp hms]
  exact List.rel_flatMap (forall₂_of_members hlists) fun _ _ hx => forall₂_of_readReferences hx.2

/-- An artifact that is read has the regions of its document. -/
theorem lists_of_read {path : Path} {v : Json} {a : Artifact} (h : Artifact.read path v = .ok a) :
    Lists v a := by
  obtain ⟨ms, hms, h⟩ := ok_of_bind h
  obtain ⟨object, -, h⟩ := ok_of_bind h
  obtain ⟨sourceMap, -, h⟩ := ok_of_bind h
  obtain ⟨generated, -, h⟩ := ok_of_bind h
  obtain ⟨immutables, himmutables, h⟩ := ok_of_bind h
  obtain ⟨links, hlinks, h⟩ := ok_of_bind h
  cases h
  rw [object_eq_ok_iff.mp hms, Lists, Outline.immutables, Outline.links, membersAt_eq,
    membersAt_eq]
  exact List.rel_append (forall₂_of_readReferences himmutables) (forall₂_of_readLinks hlinks)

/-- Null stands for no artifact, as does an absent member. -/
theorem rel_of_readOptional {path : Path} {name : String} {ms : List (String × Json)}
    {a : Option Artifact} (h : readOptional path (memberOr name .null ms) = .ok a) :
    Option.Rel Lists ((Json.obj ms).presentAt name) a := by
  rw [memberOr] at h
  rw [Json.presentAt, Json.member?_obj]
  cases hv : Table.get? name ms with
  | none =>
      rw [hv] at h
      cases h
      exact .none
  | some v =>
      rw [hv, Option.getD_some] at h
      unfold readOptional at h
      split at h
      · cases h
        exact .none
      · next hnull =>
          obtain ⟨b, hb, h⟩ := ok_of_bind h
          cases h
          cases v with
          | null => exact absurd rfl hnull
          | _ => exact .some (lists_of_read hb)

end Artifact

/-! ## Contracts -/

/-- Whether an entry of a catalog is that of a contract of the document: its file, its name, and the
regions of both its artifacts. -/
structure EntryOf (doc : String × String × Json) (entry : String × String × Contract) : Prop where
  file : entry.1 = doc.1
  name : entry.2.1 = doc.2.1
  artifacts : ∀ creation, Option.Rel Artifact.Lists (Outline.artifact? creation doc.2.2)
    (entry.2.2.artifact? creation)

theorem Contract.rel_of_read {name : String} {path : Path} {v : Json} {contract : Contract}
    (h : Contract.read name path v = .ok contract) (creation : Bool) :
    Option.Rel Artifact.Lists (Outline.artifact? creation v) (contract.artifact? creation) := by
  obtain ⟨ms, hms, h⟩ := ok_of_bind h
  obtain ⟨evm, hevm, h⟩ := ok_of_bind h
  obtain ⟨created, hcreated, h⟩ := ok_of_bind h
  obtain ⟨deployed, hdeployed, h⟩ := ok_of_bind h
  cases h
  have hoptional : Option.Rel Artifact.Lists
      ((Json.obj evm).presentAt (if creation then "bytecode" else "deployedBytecode"))
      (if creation then created else deployed) := by
    cases creation with
    | true => exact Artifact.rel_of_readOptional hcreated
    | false => exact Artifact.rel_of_readOptional hdeployed
  rw [object_eq_ok_iff.mp hms]
  rw [object_eq_ok_iff, memberOr] at hevm
  rw [Outline.artifact?, Json.member?_obj, Contract.artifact?]
  cases hv : Table.get? "evm" ms with
  | some w =>
      rw [hv, Option.getD_some] at hevm
      rw [hevm]
      exact hoptional
  | none =>
      rw [hv, Option.getD_none, Json.obj.injEq] at hevm
      rw [← hevm] at hoptional
      exact hoptional

namespace Catalog

theorem forall₂_of_ofContracts {v : Json} {sources : Table Scalar String} {c : Catalog}
    (h : ofContracts v sources = .ok c) :
    c.sources = sources ∧ List.Forall₂ (fun m file => file.1 = m.1 ∧
      List.Forall₂ (fun n entry => entry.1 = n.1 ∧ ∃ path, Contract.read n.1 path n.2 = .ok entry.2)
        m.2.members file.2) v.members c.files := by
  obtain ⟨ms, hms, h⟩ := ok_of_bind h
  obtain ⟨files, hfiles, h⟩ := ok_of_bind h
  cases h
  rw [object_eq_ok_iff.mp hms]
  refine ⟨rfl, (forall₂_of_members hfiles).imp fun m file ⟨hname, hfile⟩ => ⟨hname, ?_⟩⟩
  obtain ⟨ns, hns, hfile⟩ := ok_of_bind hfile
  rw [object_eq_ok_iff.mp hns]
  exact (forall₂_of_members hfile).imp fun n entry hentry => ⟨hentry.1, _, hentry.2⟩

theorem integerAt_of_readSourceId {path : Path} {v : Json} {id : Option Integer}
    (h : readSourceId path v = .ok id) : v.integerAt "id" = id := by
  obtain ⟨ms, hms, h⟩ := ok_of_bind h
  rw [object_eq_ok_iff.mp hms, integerAt_eq]
  exact Except.ok.inj h

/-- What an accepted compiler output was read from: the two sections, each on its own. -/
theorem sections_of_ofOutput {output : Json} {c : Catalog} (h : ofOutput output = .ok c) :
    c.sources =
        Table.ofEntries ((Outline.sources output).map fun e => (e.2.toScalar, e.1)) ∧
      List.Forall₂ (fun m file => file.1 = m.1 ∧ List.Forall₂
        (fun n entry => entry.1 = n.1 ∧ ∃ path, Contract.read n.1 path n.2 = .ok entry.2)
          m.2.members file.2) (output.membersAt "contracts") c.files := by
  obtain ⟨ms, hms, h⟩ := ok_of_bind h
  obtain ⟨sources, hsources, h⟩ := ok_of_bind h
  obtain ⟨ids, hids, h⟩ := ok_of_bind h
  obtain ⟨hc, hfiles⟩ := forall₂_of_ofContracts h
  have hread : List.Forall₂ (fun m id => (m.1, m.2.integerAt "id") = id) sources ids :=
    (forall₂_of_members hids).imp fun _ _ ⟨hname, hid⟩ =>
      Prod.ext hname.symm (integerAt_of_readSourceId hid)
  have hmap : (sources.map fun m => (m.1, m.2.integerAt "id")) = ids := by
    rw [map_eq_map_of_forall₂ hread, List.map_id']
  rw [object_eq_ok_iff.mp hms, membersAt_eq]
  refine ⟨?_, hfiles⟩
  rw [hc, sourceTable, ← hmap, Outline.sources, membersAt_eq, object_eq_ok_iff.mp hsources,
    List.filterMap_map, List.map_filterMap]
  congr 2
  funext m
  show Option.map _ (m.2.integerAt "id") = Option.map _ (Option.map _ (m.2.integerAt "id"))
  rw [Option.map_map]
  rfl

/-- The contracts of a catalog are those of the document, one by one. -/
theorem forall₂_contracts {output : Json} {c : Catalog} (h : ofOutput output = .ok c) :
    List.Forall₂ EntryOf (Outline.contracts output) c.contracts := by
  refine List.rel_flatMap (sections_of_ofOutput h).2 fun m file ⟨hname, hentries⟩ => ?_
  rw [List.forall₂_map_left_iff, List.forall₂_map_right_iff]
  exact hentries.imp fun n entry ⟨hentry, _, hread⟩ =>
    ⟨hname, hentry, Contract.rel_of_read hread⟩

end Catalog

/-! ## Names that come once -/

namespace Json

theorem WellFormed.members {v : Json} (h : v.WellFormed) :
    (Table.keys v.members).Nodup ∧ ∀ m ∈ v.members, m.2.WellFormed := by
  cases v with
  | obj ms => exact wellFormed_obj_iff.mp h
  | _ => exact ⟨List.nodup_nil, fun _ hm => absurd hm List.not_mem_nil⟩

theorem WellFormed.membersAt {v : Json} (h : v.WellFormed) (name : String) :
    (Table.keys (v.membersAt name)).Nodup ∧ ∀ m ∈ v.membersAt name, m.2.WellFormed := by
  cases v with
  | obj ms =>
      rw [Json.membersAt, member?_obj]
      cases hv : Table.get? name ms with
      | none => exact ⟨List.nodup_nil, fun _ hm => absurd hm List.not_mem_nil⟩
      | some w => exact ((wellFormed_obj_iff.mp h).2 _ (Table.mem_of_get? hv)).members
  | _ => exact ⟨List.nodup_nil, fun _ hm => absurd hm List.not_mem_nil⟩

end Json

/-- The file and the name of a contract. -/
def contractKey {α : Type} (entry : String × String × α) : String × String :=
  (entry.1, entry.2.1)

namespace Catalog

/-- Whether a catalog lists each file once, and each name once in its file. -/
structure Distinct (c : Catalog) : Prop where
  files : (Table.keys c.files).Nodup
  names : ∀ file ∈ c.files, (Table.keys file.2).Nodup

theorem distinct_of_ofOutput {output : Json} {c : Catalog} (hnames : output.WellFormed)
    (h : ofOutput output = .ok c) : c.Distinct := by
  have hfiles := (sections_of_ofOutput h).2
  obtain ⟨hkeys, hvalues⟩ := hnames.membersAt "contracts"
  constructor
  · rwa [Table.keys, map_eq_map_of_forall₂ (hfiles.imp fun _ _ hfile => hfile.1.symm)] at hkeys
  · intro file hfile
    obtain ⟨m, hm, -, hentries⟩ := exists_left_of_forall₂ hfiles hfile
    have hnames := (hvalues m hm).members.1
    rwa [Table.keys, map_eq_map_of_forall₂ (hentries.imp fun _ _ hentry => hentry.1.symm)] at hnames

variable {c : Catalog}

/-- No contract comes twice. -/
theorem nodup_contracts (h : c.Distinct) : (c.contracts.map contractKey).Nodup := by
  rw [contracts, List.map_flatMap, List.nodup_flatMap]
  constructor
  · intro file hfile
    rw [List.map_map]
    have hpairs := (h.names file hfile).map fun x y (hxy : (file.1, x) = (file.1, y)) =>
      congrArg Prod.snd hxy
    rwa [Table.keys, List.map_map] at hpairs
  · have hfiles := h.files
    rw [Table.keys, List.Nodup, List.pairwise_map] at hfiles
    refine hfiles.imp fun {file other} hne pair hfile hother => ?_
    simp only [List.map_map, List.mem_map] at hfile hother
    obtain ⟨_, -, rfl⟩ := hfile
    obtain ⟨_, -, hpair⟩ := hother
    exact hne (congrArg Prod.fst hpair).symm

theorem size_eq (c : Catalog) : c.size = c.contracts.length := by
  simp only [size, contracts, List.length_flatMap, List.length_map, List.sum, List.foldr_map]

/-- The lookup finds the contract that is listed under a file and a name. -/
theorem contract?_eq_some_iff (h : c.Distinct) {file name : String} {contract : Contract} :
    c.contract? file name = some contract ↔ (file, name, contract) ∈ c.contracts := by
  rw [contract?, Option.bind_eq_some_iff, contracts, List.mem_flatMap]
  constructor
  · rintro ⟨entries, hentries, hcontract⟩
    exact ⟨_, Table.mem_of_get? hentries,
      List.mem_map.mpr ⟨_, Table.mem_of_get? hcontract, rfl⟩⟩
  · rintro ⟨⟨_, entries⟩, hfile, hlisted⟩
    obtain ⟨entry, hentry, heq⟩ := List.mem_map.mp hlisted
    cases heq
    exact ⟨entries, (Table.get?_eq_some_iff_of_nodup h.files).mpr hfile,
      (Table.get?_eq_some_iff_of_nodup (h.names _ hfile)).mpr hentry⟩

/-- The lookup finds nothing under any other file and name. -/
theorem contract?_eq_none_iff (h : c.Distinct) {file name : String} :
    c.contract? file name = none ↔ (file, name) ∉ c.contracts.map contractKey := by
  rw [Option.eq_none_iff_forall_ne_some, List.mem_map]
  simp only [ne_eq, contract?_eq_some_iff h]
  constructor
  · rintro hnone ⟨entry, hentry, hkey⟩
    cases hkey
    exact hnone entry.2.2 hentry
  · exact fun hnone contract hcontract => hnone ⟨_, hcontract, rfl⟩

/-! ## Sources -/

/-- Whatever an id is, comparing with it tells integers apart. -/
theorem tells_integers (id : Scalar) :
    Table.Tells id fun a => ∃ n : Integer, a = n.toScalar where
  congr := by
    rintro _ _ ⟨m, rfl⟩ ⟨n, rfl⟩ hmn
    show m.toScalar.same id = n.toScalar.same id
    rw [Scalar.same_toScalar, Scalar.same_toScalar, Scalar.same_toScalar_iff.mp hmn]
  eq := by
    rintro _ _ ⟨m, rfl⟩ ⟨n, rfl⟩ hm hn
    exact Scalar.same_toScalar_iff.mpr (Scalar.eq_of_same_int
      ((Scalar.same_toScalar m id).symm.trans hm) ((Scalar.same_toScalar n id).symm.trans hn))

section

variable {output : Json} (h : ofOutput output = .ok c) {id : Scalar}

include h

/-- The name of a compiled source is that of the last source with the id. -/
theorem compiledName?_eq (id : Scalar) :
    c.compiledName? id =
      ((Outline.sources output).reverse.find? fun e => e.2.toScalar.same id).map Prod.fst := by
  have hinteger : ∀ entry ∈ (Outline.sources output).map fun e => (e.2.toScalar, e.1),
      ∃ n : Integer, entry.1 = n.toScalar := by
    intro entry hentry
    obtain ⟨e, -, rfl⟩ := List.mem_map.mp hentry
    exact ⟨e.2, rfl⟩
  rw [compiledName?, (sections_of_ofOutput h).1, (tells_integers id).get?_ofEntries hinteger,
    List.findRev?_eq_find?_reverse, ← List.map_reverse, List.find?_map, Option.map_map]
  rfl

theorem compiledName?_eq_some_iff {file : String} :
    c.compiledName? id = some file ↔ ∃ before n after,
      Outline.sources output = before ++ (file, n) :: after ∧ n.toScalar.same id = true ∧
        ∀ e ∈ after, ¬ e.2.toScalar.same id = true := by
  rw [compiledName?_eq h, Option.map_eq_some_iff]
  constructor
  · rintro ⟨⟨file, n⟩, hfound, rfl⟩
    obtain ⟨before, after, hsplit, hn, hlast⟩ := find?_reverse_eq_some_iff.mp hfound
    exact ⟨before, n, after, hsplit, hn, hlast⟩
  · rintro ⟨before, n, after, hsplit, hn, hlast⟩
    exact ⟨(file, n), find?_reverse_eq_some_iff.mpr ⟨before, after, hsplit, hn, hlast⟩, rfl⟩

theorem compiledName?_eq_none_iff :
    c.compiledName? id = none ↔
      ∀ e ∈ Outline.sources output, ¬ e.2.toScalar.same id = true := by
  rw [compiledName?_eq h, Option.map_eq_none_iff, List.find?_eq_none]
  simp only [List.mem_reverse]

theorem names_sourceName (id : Scalar) (generated : List GeneratedSource) :
    Outline.Names output id generated (c.sourceName id generated) := by
  unfold sourceName
  cases hcompiled : c.compiledName? id with
  | some file =>
      obtain ⟨before, n, after, hsplit, hn, hlast⟩ := (compiledName?_eq_some_iff h).mp hcompiled
      exact .compiled hsplit hn hlast
  | none =>
      have habsent := (compiledName?_eq_none_iff h).mp hcompiled
      cases hfound : generated.find? fun g => g.id.toScalar.same id with
      | some g =>
          obtain ⟨hg, before, after, hsplit, hfirst⟩ := List.find?_eq_some_iff_append.mp hfound
          exact .generated habsent hsplit hg fun e he => by simpa using hfirst e he
      | none => exact .nothing habsent (List.find?_eq_none.mp hfound)

/-- The name of a source is what names it in the document. -/
theorem sourceName_eq_iff {generated : List GeneratedSource} {v : Json} :
    c.sourceName id generated = v ↔ Outline.Names output id generated v := by
  refine ⟨fun hv => hv ▸ names_sourceName h id generated, fun hv => ?_⟩
  cases hv with
  | compiled split here last =>
      rw [sourceName, (compiledName?_eq_some_iff h).mpr ⟨_, _, _, split, here, last⟩]
  | @generated before after g absent split here first =>
      have hfound : generated.find? (fun g => g.id.toScalar.same id) = some g :=
        List.find?_eq_some_iff_append.mpr
          ⟨here, before, after, split, fun e he => by simpa using first e he⟩
      rw [sourceName, (compiledName?_eq_none_iff h).mpr absent]
      simp only [hfound]
  | nothing absent none =>
      rw [sourceName, (compiledName?_eq_none_iff h).mpr absent]
      simp only [List.find?_eq_none.mpr none]

end

/-! ## The main result -/

/-- The names that a catalog lists are those of the document. -/
theorem map_contractKey {output : Json} (h : ofOutput output = .ok c) :
    c.contracts.map contractKey = (Outline.contracts output).map contractKey :=
  (map_eq_map_of_forall₂ ((forall₂_contracts h).imp fun _ _ hentry =>
    Prod.ext hentry.file.symm hentry.name.symm)).symm

/-- **A catalog loses and repeats nothing.**  The catalog of an accepted compiler output lists every
contract of the document once and in its order, with artifacts whose regions are the immutables of
the document and then its links, each in document order.  Its size is their number; the lookup finds
the contract that is listed under a file and a name, and nothing under any other; and the name of a
source is that of the last source of the document with the id, else that of the first generated
source with it, else null.  The assumption on names holds of every document that is read
(`Json.wellFormed_of_read`). -/
theorem holds_outline {output : Json} (hnames : output.WellFormed)
    (h : ofOutput output = .ok c) :
    List.Forall₂ EntryOf (Outline.contracts output) c.contracts ∧
      ((Outline.contracts output).map contractKey).Nodup ∧
      c.size = (Outline.contracts output).length ∧
      (∀ file name contract,
        c.contract? file name = some contract ↔ (file, name, contract) ∈ c.contracts) ∧
      (∀ file name, c.contract? file name = none ↔
        (file, name) ∉ (Outline.contracts output).map contractKey) ∧
      ∀ id generated v, c.sourceName id generated = v ↔ Outline.Names output id generated v := by
  have hentries := forall₂_contracts h
  have hdistinct := distinct_of_ofOutput hnames h
  refine ⟨hentries, ?_, ?_, fun file name contract => contract?_eq_some_iff hdistinct,
    fun file name => ?_, fun id generated v => sourceName_eq_iff h⟩
  · rw [← map_contractKey h]
    exact nodup_contracts hdistinct
  · rw [size_eq, hentries.length_eq]
  · rw [← map_contractKey h]
    exact contract?_eq_none_iff hdistinct

namespace Sample

def region (start length : Int) : Json :=
  .obj [("start", .int start), ("length", .int length)]

/-- Two files with a contract of the same name, and two sources that share an id. -/
def output : Json :=
  .obj
    [("sources", .obj
        [("A.sol", .obj [("id", .int 1)]), ("B.sol", .obj [("id", .bool true)]),
          ("C.sol", .obj [])]),
      ("contracts", .obj
        [("A.sol", .obj [("Foo", .obj [("evm", .obj [("deployedBytecode", .obj
            [("linkReferences", .obj [("B.sol", .obj [("Bar", .arr [region 1 20])])]),
              ("immutableReferences", .obj
                [("7", .arr [region 54 32, region 22 32]), ("8", .null)])])])])]),
          ("B.sol", .obj [("Foo", .obj []), ("Bar", .obj [("evm", .obj [])])])])]

end Sample

theorem holds_outline_sample :
    Sample.output.WellFormed ∧ ∃ c, ofOutput Sample.output = .ok c ∧ c.size = 3 ∧
      (∃ contract, ("A.sol", "Foo", contract) ∈ c.contracts ∧
        c.contract? "A.sol" "Foo" = some contract) ∧
      c.contract? "A.sol" "Bar" = none ∧
      c.sourceName (.int 1) [] = .str "B.sol" ∧ c.sourceName .null [] = .null := by
  have hnames : Sample.output.WellFormed := by
    simp only [Sample.output, Sample.region, Json.wellFormed_obj_iff, Json.wellFormed_arr_iff,
      Table.keys, List.map_cons, List.map_nil, List.nodup_cons, List.nodup_nil, List.mem_cons,
      List.not_mem_nil, String.reduceEq, or_self, or_false, not_false_eq_true, and_self, true_and,
      and_true, forall_eq_or_imp, forall_eq, IsEmpty.forall_iff, implies_true]
    and_intros <;> exact .plain rfl
  obtain ⟨c, hc⟩ : ∃ c, ofOutput Sample.output = .ok c := ⟨_, rfl⟩
  obtain ⟨-, -, hsize, hsome, hnone, hsource⟩ := holds_outline hnames hc
  refine ⟨hnames, c, hc, hsize, ?_, (hnone _ _).mpr (by decide), (hsource _ _ _).mpr ?_,
    (hsource _ _ _).mpr ?_⟩
  · have hfirst : ∃ entry ∈ c.contracts, contractKey entry = ("A.sol", "Foo") := by
      rw [← List.mem_map, map_contractKey hc]
      decide
    obtain ⟨⟨_, _, contract⟩, hentry, hkey⟩ := hfirst
    cases hkey
    exact ⟨contract, hentry, (hsome _ _ _).mpr hentry⟩
  · have hsplit : Outline.sources Sample.output =
        [("A.sol", .num 1)] ++ ("B.sol", .truth true) :: [] := rfl
    exact .compiled hsplit rfl nofun
  · exact .nothing (by decide) nofun

end Catalog

end EvmLocator

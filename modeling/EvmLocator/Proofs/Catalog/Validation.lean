import EvmLocator.Proofs.Catalog.Schema

/-!
# Reading a compiler output checks its schema

Reading a compiler output and checking it are one pass: a catalog is built value by value, and the
first value that does not fit ends it.  Whether that pass checks all that it should is a matter of
every field, since a check that is left out would let a value of the wrong kind through.  So the
readers are compared with the schema, which is written down without them.

A reading reports on a list of faults if it succeeds where the list is empty and ends with the first
fault where it is not (`Reports`).  A reading in two parts reports on both lists, one after the
other, and each form of a rule has the reader that reports on it.  The proof for a reader then goes
along its lines.  A member that is absent is read as the value that stands for it, which must follow
the rule for the member.

## Main results

* `Reports.bind`: a reading in two parts.
* `Reading.reports_memberOr`: reading a member that may be absent.
* `Catalog.reads_exactly_schema`: what is read as a catalog, and what is reported else.
-/

namespace EvmLocator

/-- Whether an outcome is that of a reading which ends at the first of some faults. -/
def Reports {α : Type} (faults : List SchemaError) : Except SchemaError α → Prop
  | .ok _ => faults = []
  | .error e => faults.head? = some e

section

variable {α β : Type} {faults more : List SchemaError} {outcome : Except SchemaError α}

theorem Reports.exists_ok_iff (h : Reports faults outcome) :
    (∃ a, outcome = .ok a) ↔ faults = [] := by
  cases outcome with
  | ok a =>
      have hfaults : faults = [] := h
      simp [hfaults]
  | error e =>
      have hfaults : faults ≠ [] := by
        rintro rfl
        cases h
      simpa using hfaults

theorem Reports.eq_error_iff (h : Reports faults outcome) (e : SchemaError) :
    outcome = .error e ↔ faults.head? = some e := by
  cases outcome with
  | ok a =>
      have hfaults : faults = [] := h
      simp [hfaults]
  | error f =>
      have hfaults : faults.head? = some f := h
      simp [hfaults, eq_comm]

theorem reports_pure (a : α) : Reports [] (pure a : Except SchemaError α) := rfl

/-- A reading in two parts comes to the faults of the second once the first has none. -/
theorem Reports.bind {f : α → Except SchemaError β} (h : Reports faults outcome)
    (hf : ∀ a, Reports more (f a)) : Reports (faults ++ more) (outcome >>= f) := by
  cases outcome with
  | ok a =>
      have hfaults : faults = [] := h
      rw [hfaults]
      exact hf a
  | error e =>
      have hfaults : faults.head? = some e := h
      show (faults ++ more).head? = some e
      rw [List.head?_append, hfaults]
      rfl

theorem Reports.map (h : Reports faults outcome) (g : α → β) :
    Reports faults (outcome >>= fun a => pure (g a)) := by
  rw [← List.append_nil faults]
  exact h.bind fun a => reports_pure (g a)

end

/-! ## The forms of a rule -/

namespace Reading

variable {α β : Type} {rule : Rule}

theorem reports_object {members : MemberRule} {f : List (String × Json) → Except SchemaError α}
    {path : Path} (h : ∀ ms, Reports (members.faults path ms) (f ms)) (v : Json) :
    Reports ((Rule.object members).faults path v) (object path v >>= f) := by
  cases v with
  | obj ms => exact h ms
  | _ => rfl

theorem reports_optionalText (path : Path) (v : Json) :
    Reports ((Rule.orNull .text).faults path v) (optionalText path v) := by
  cases v <;> rfl

theorem reports_items {read : Path → Json → Except SchemaError α}
    (h : ∀ path v, Reports (rule.faults path v) (read path v)) (path : Path) (index : Nat)
    (vs : List Json) : Reports (rule.itemFaults path index vs) (items read path index vs) := by
  induction vs generalizing index with
  | nil => rfl
  | cons v vs ih => exact (h _ v).bind fun x => (ih (index + 1)).map fun xs => x :: xs

theorem reports_members {read : String → Path → Json → Except SchemaError α}
    (h : ∀ name path v, Reports (rule.faults path v) (read name path v)) (path : Path)
    (ms : List (String × Json)) :
    Reports ((MemberRule.each rule).faults path ms) (members read path ms) := by
  induction ms with
  | nil => rfl
  | cons entry ms ih =>
      exact (h entry.1 _ entry.2).bind fun x => ih.map fun xs => (entry.1, x) :: xs

/-- The value that stands for an absent member follows the rule for the member. -/
theorem reports_memberOr {read : Json → Except SchemaError α} {path : Path} {name : String}
    {absent : Json} (h : ∀ v, Reports (rule.faults path v) (read v)) (habsent : rule.Holds absent)
    (ms : List (String × Json)) :
    Reports (rule.memberFaults path name ms) (read (memberOr name absent ms)) := by
  have hread := h (memberOr name absent ms)
  unfold Rule.memberFaults
  cases hv : Table.get? name ms with
  | some v =>
      rw [memberOr, hv] at hread ⊢
      exact hread
  | none =>
      rw [memberOr, hv] at hread ⊢
      rwa [Option.getD_none, (rule.faults_eq_nil_iff _ _).mpr habsent] at hread

/-- An absent member for which the empty object stands. -/
theorem reports_objectOr {members : MemberRule} {f : List (String × Json) → Except SchemaError α}
    {path : Path} {name : String} (h : ∀ ms, Reports (members.faults path ms) (f ms))
    (habsent : members.Holds []) (ms : List (String × Json)) :
    Reports ((Rule.object members).memberFaults path name ms)
      (object path (memberOr name (.obj []) ms) >>= f) :=
  reports_memberOr (reports_object h) ⟨[], rfl, habsent⟩ ms

theorem isSome_ofJson?_memberOr {name : String} {ms : List (String × Json)} :
    (Integer.ofJson? (memberOr name .null ms)).isSome = true ↔ HasInteger name ms := by
  rw [← isSome_bind_ofJson?_iff, memberOr]
  cases Table.get? name ms <;> rfl

end Reading

/-! ## The readers -/

open Reading

theorem Region.reports_read (path : Path) (v : Json) :
    Reports (Schema.region.faults path v) (Region.read path v) := by
  apply reports_object
  intro ms
  simp only [Schema.bounds, ← isSome_ofJson?_memberOr]
  cases Integer.ofJson? (memberOr "start" .null ms) <;>
    cases Integer.ofJson? (memberOr "length" .null ms) <;> rfl

theorem Region.reports_readAll (path : Path) (v : Json) :
    Reports (Schema.regions.faults path v) (Region.readAll path v) := by
  cases v with
  | arr vs => exact reports_items Region.reports_read path 0 vs
  | _ => rfl

theorem GeneratedSource.reports_read (path : Path) (v : Json) :
    Reports (Schema.generatedSource.faults path v) (GeneratedSource.read path v) := by
  apply reports_object
  intro ms
  simp only [MemberRule.all, MemberRule.both, Schema.integerId, ← isSome_ofJson?_memberOr]
  cases Integer.ofJson? (memberOr "id" .null ms) with
  | none => rfl
  | some id =>
      exact (reports_memberOr (reports_optionalText _) (Or.inr ⟨"", rfl⟩) ms).bind
        fun contents => reports_pure _

theorem Artifact.reports_readGenerated (path : Path) (v : Json) :
    Reports (Schema.generatedSources.faults path v) (Artifact.readGenerated path v) := by
  cases v with
  | arr vs => exact (reports_items GeneratedSource.reports_read path 0 vs).map some
  | _ => rfl

theorem Artifact.reports_readReferences (path : Path) (v : Json) :
    Reports (Schema.references.faults path v) (Artifact.readReferences path v) := by
  apply reports_object
  intro ms
  exact (reports_members (fun _ => Region.reports_readAll) path ms).map _

theorem Artifact.reports_readLinks (path : Path) (v : Json) :
    Reports (Schema.links.faults path v) (Artifact.readLinks path v) := by
  apply reports_object
  intro ms
  exact (reports_members (fun _ => Artifact.reports_readReferences) path ms).map _

theorem Artifact.reports_read (path : Path) (v : Json) :
    Reports (Schema.artifact.faults path v) (Artifact.read path v) := by
  apply reports_object
  intro ms
  refine (reports_memberOr (reports_optionalText _) (Or.inr ⟨"", rfl⟩) ms).bind fun object => ?_
  refine (reports_memberOr (reports_optionalText _) (Or.inl rfl) ms).bind fun sourceMap => ?_
  refine (reports_memberOr (reports_readGenerated _) (Or.inl rfl) ms).bind fun generated => ?_
  refine (reports_memberOr (reports_readReferences _) ⟨[], rfl, nofun⟩ ms).bind fun immutables => ?_
  refine (reports_memberOr (reports_readLinks _) ⟨[], rfl, nofun⟩ ms).bind fun links => ?_
  exact reports_pure _

theorem Artifact.reports_readOptional (path : Path) (v : Json) :
    Reports ((Rule.orNull Schema.artifact).faults path v) (Artifact.readOptional path v) := by
  unfold Artifact.readOptional
  split
  · rfl
  · next hnull =>
      rw [Rule.faults_orNull hnull]
      exact (Artifact.reports_read path _).map some

theorem Contract.reports_read (name : String) (path : Path) (v : Json) :
    Reports (Schema.contract.faults path v) (Contract.read name path v) := by
  apply reports_object
  intro ms
  refine reports_objectOr (fun evm => ?_) ?_ ms
  · refine (reports_memberOr (Artifact.reports_readOptional _) (Or.inl rfl) evm).bind
      fun creation => ?_
    refine (reports_memberOr (Artifact.reports_readOptional _) (Or.inl rfl) evm).bind
      fun deployed => ?_
    exact reports_pure _
  · exact ⟨nofun, nofun, trivial⟩

theorem Catalog.reports_readFile (path : Path) (v : Json) :
    Reports (Schema.file.faults path v) (Catalog.readFile path v) := by
  apply reports_object
  intro ms
  exact reports_members Contract.reports_read path ms

theorem Catalog.reports_ofContracts (v : Json) (sources : Table Scalar String) :
    Reports (Schema.contracts.faults (.root "contracts") v) (Catalog.ofContracts v sources) := by
  apply reports_object
  intro ms
  exact (reports_members (fun _ => Catalog.reports_readFile) _ ms).map _

theorem Catalog.reports_readSourceId (path : Path) (v : Json) :
    Reports ((Rule.object .anything).faults path v) (Catalog.readSourceId path v) :=
  reports_object (fun _ => reports_pure _) v

theorem Catalog.reports_ofOutput (v : Json) :
    Reports (Schema.outputFaults v) (Catalog.ofOutput v) := by
  cases v with
  | obj ms =>
      have hsources : Reports (Schema.sources.memberFaults (.root "sources") "sources" ms)
          (object (.root "sources") (memberOr "sources" (.obj []) ms) >>=
            members (fun _ path v => Catalog.readSourceId path v) (.root "sources")) :=
        reports_objectOr (reports_members (fun _ => Catalog.reports_readSourceId) _) nofun ms
      have hsplit : Catalog.ofOutput (.obj ms) =
          (object (.root "sources") (memberOr "sources" (.obj []) ms) >>=
            members (fun _ path v => Catalog.readSourceId path v) (.root "sources")) >>=
            fun ids => Catalog.ofContracts (memberOr "contracts" (.obj []) ms)
              (Catalog.sourceTable ids) := by
        rw [bind_assoc]
        rfl
      rw [hsplit]
      exact hsources.bind fun ids =>
        reports_memberOr (Catalog.reports_ofContracts · _) ⟨[], rfl, nofun⟩ ms
  | _ => rfl

/-! ## The main result -/

/-- **A catalog is read exactly from what follows the schema.**  A compiler output, or a contracts
section by itself, gives a catalog if and only if it follows the schema.  If it does not, the
reading ends with the first of its faults, which is about what stands at its path in the document,
and the message begins with that path. -/
theorem Catalog.reads_exactly_schema (v : Json) :
    ((∃ c, Catalog.ofOutput v = .ok c) ↔ Schema.IsOutput v) ∧
      (∀ e, Catalog.ofOutput v = .error e ↔
        (Schema.outputFaults v).head? = some e ∧ Schema.NamesInOutput v e) ∧
      (∀ sources : Table Scalar String,
        ((∃ c, Catalog.ofContracts v sources = .ok c) ↔ Schema.contracts.Holds v) ∧
          ∀ e, Catalog.ofContracts v sources = .error e ↔
            (Schema.contracts.faults (.root "contracts") v).head? = some e ∧
              e.Names (.root "contracts") v) ∧
      ∀ e : SchemaError, ∃ rest, e.message = e.path.text ++ ": " ++ rest := by
  refine ⟨?_, ?_, ?_, ?_⟩
  · rw [(Catalog.reports_ofOutput v).exists_ok_iff, Schema.outputFaults_eq_nil_iff]
  · intro e
    rw [(Catalog.reports_ofOutput v).eq_error_iff e, iff_self_and]
    intro h
    exact Schema.names_of_mem_outputFaults (List.mem_of_head? h)
  · intro sources
    have hreports := Catalog.reports_ofContracts v sources
    constructor
    · rw [hreports.exists_ok_iff, Schema.contracts.faults_eq_nil_iff]
    · intro e
      rw [hreports.eq_error_iff e, iff_self_and]
      intro h
      exact Schema.contracts.names_of_mem _ v e (List.mem_of_head? h)
  · intro e
    exact ⟨e.fault.message, rfl⟩

/-- Of two faults the one in the sources is reported, though the contracts come first. -/
example :
    (Catalog.ofOutput (.obj [("contracts", .null), ("sources", .obj [("A.sol", .arr [])])])).map
        Catalog.size =
      .error { path := .member (.root "sources") "A.sol", fault := .notAnObject "list" } := rfl

end EvmLocator

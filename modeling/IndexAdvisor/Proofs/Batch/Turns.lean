import IndexAdvisor.Batch.Run
import IndexAdvisor.Proofs.Batch.Analysed

/-! # Queries in turn

A run takes the queries of a corpus in the order of their ids, each once. The first analysis that
fails ends it: the queries before have been analysed as if they were all, and those after are of no
account.
-/

namespace IndexAdvisor

theorem Entries.find?_eq_some_iff {α : Type} {entries : Entries α} (distinct : entries.names.Nodup)
    {name : String} {value : α} : entries.find? name = some value ↔ (name, value) ∈ entries := by
  rw [find?, List.lookup_eq_some_iff]
  constructor
  · rintro ⟨before, after, rfl, -⟩
    simp
  · intro mem
    obtain ⟨before, after, rfl⟩ := List.append_of_mem mem
    refine ⟨before, after, rfl, fun entry earlier => ?_⟩
    rw [names, List.map_append, List.nodup_append] at distinct
    have other := distinct.2.2 entry.1 (List.mem_map_of_mem earlier) name (by simp)
    simpa using Ne.symm other

namespace Run

/-! ## The order of the queries -/

section Order

variable {corpus : Entries String}

theorem ids_queriesOf (corpus : Entries String) :
    (queriesOf corpus).map (·.1) = Text.sorted (corpus.names.filter Config.isQueryId) := by
  rw [queriesOf, List.map_filterMap]
  refine Eq.trans (List.filterMap_congr fun id mem => ?_) List.filterMap_some
  have listed := (List.mem_filter.mp (Text.mem_sorted.mp mem)).1
  obtain ⟨query, found⟩ := Option.isSome_iff_exists.mp (Entries.mem_names_iff.mp listed)
  rw [found]
  rfl

theorem ascending_queriesOf (distinct : corpus.names.Nodup) :
    ((queriesOf corpus).map (·.1)).Pairwise (· < ·) := by
  rw [ids_queriesOf]
  exact Text.ascending_sorted (distinct.filter _)

theorem mem_queriesOf (distinct : corpus.names.Nodup) {id query : String} :
    (id, query) ∈ queriesOf corpus ↔ Config.isQueryId id ∧ (id, query) ∈ corpus := by
  rw [queriesOf, List.mem_filterMap, ← Entries.find?_eq_some_iff distinct]
  constructor
  · rintro ⟨other, mem, made⟩
    obtain ⟨text, found, same⟩ := Option.map_eq_some_iff.mp made
    obtain ⟨rfl, rfl⟩ := Prod.mk.inj same
    exact ⟨(List.mem_filter.mp (Text.mem_sorted.mp mem)).2, found⟩
  · rintro ⟨isQuery, found⟩
    refine ⟨id, ?_, by rw [found]; rfl⟩
    have listed := Entries.mem_names_iff.mpr (Option.isSome_of_eq_some found)
    exact Text.mem_sorted.mpr (List.mem_filter.mpr ⟨listed, isQuery⟩)

theorem queriesOf_single {id : String} (isQuery : Config.isQueryId id) (query : String) :
    queriesOf [(id, query)] = [(id, query)] := by
  simp [queriesOf, Entries.names, isQuery, Text.sorted, Entries.find?]

theorem queriesOf_pair {id other query text : String} (isQuery : Config.isQueryId id)
    (isQuery' : Config.isQueryId other) (apart : id < other) :
    queriesOf [(id, query), (other, text)] = [(id, query), (other, text)] := by
  have unequal : (other == id) = false := beq_false_of_ne (ne_of_gt apart)
  simp [queriesOf, Entries.names, isQuery, isQuery', Text.sorted, List.mergeSort, Entries.find?,
    apart.le, List.lookup_cons, unequal]

/-- A corpus of queries in the order of their ids is analysed as it is. -/
theorem ofCorpus_eq_ofQueries (setting : Setting) (options : BatchOptions)
    (ordered : queriesOf corpus = corpus) (s : Session) :
    ofCorpus setting options corpus s = ofQueries setting options corpus s := by
  rw [ofCorpus, ordered]

end Order

/-! ## The first failure -/

variable {setting : Setting} {options : BatchOptions} {s t : Session} {id query : String}

theorem ofQueries_ok {result : QueryResult}
    (given : Step.Gives (Step.analyse setting options id query) s result t)
    (rest : List (String × String)) :
    ofQueries setting options ((id, query) :: rest) s
      = let ends := ofQueries setting options rest t
        (⟨result :: ends.1.results, ends.1.failure⟩, ends.2) := by
  have run : (Step.analyse setting options id query).run.run s = (.ok result, t) := given
  rw [ofQueries, run]

theorem ofQueries_error {e : Failure}
    (failed : (Step.analyse setting options id query).outcome s = (.error e, t))
    (rest : List (String × String)) :
    ofQueries setting options ((id, query) :: rest) s
      = (⟨[], some (id, e)⟩, { t with notes := .failed id query e.message :: t.notes }) := by
  have run : (Step.analyse setting options id query).run.run s = (.error e, t) := failed
  rw [ofQueries, run]

/-- Queries that are all analysed may come before others. -/
theorem ofQueries_append {done : List (String × String)} {results : List QueryResult}
    (complete : ofQueries setting options done s = (⟨results, none⟩, t))
    (rest : List (String × String)) :
    ofQueries setting options (done ++ rest) s
      = let ends := ofQueries setting options rest t
        (⟨results ++ ends.1.results, ends.1.failure⟩, ends.2) := by
  -- `complete` says of the first query that it succeeds, and of the others what it says of all
  induction done generalizing s results with
  | nil =>
      obtain ⟨⟨⟩, rfl⟩ := Prod.mk.inj complete
      rfl
  | cons first others ih =>
      obtain ⟨id, query⟩ := first
      rcases run : (Step.analyse setting options id query).outcome s with ⟨e | result, u⟩
      · rw [ofQueries_error run] at complete
        exact nomatch complete
      · rw [ofQueries_ok run] at complete
        obtain ⟨same, rfl⟩ := Prod.mk.inj complete
        obtain ⟨rfl, unfailed⟩ := Run.mk.inj same
        have later : ofQueries setting options others u
            = (⟨(ofQueries setting options others u).1.results, none⟩,
              (ofQueries setting options others u).2) := by rw [← unfailed]
        rw [List.cons_append, ofQueries_ok run, ih later]
        rfl

/-- A run that fails at a query has analysed the queries before it. -/
theorem ofQueries_failure {queries : List (String × String)} {e : Failure}
    (failed : (ofQueries setting options queries s).1.failure = some (id, e)) :
    ∃ done query later t u, queries = done ++ (id, query) :: later ∧
      ofQueries setting options done s
        = (⟨(ofQueries setting options queries s).1.results, none⟩, t) ∧
      (Step.analyse setting options id query).outcome t = (.error e, u) ∧
      (ofQueries setting options queries s).2
        = { u with notes := .failed id query e.message :: u.notes } := by
  induction queries generalizing s with
  | nil => exact nomatch failed
  | cons first rest ih =>
      obtain ⟨name, query⟩ := first
      rcases run : (Step.analyse setting options name query).outcome s with ⟨e | result, u⟩
      · rw [ofQueries_error run] at failed ⊢
        obtain ⟨rfl, rfl⟩ := Prod.mk.inj (Option.some.inj failed)
        exact ⟨[], query, rest, s, u, rfl, rfl, run, rfl⟩
      · rw [ofQueries_ok run] at failed ⊢
        obtain ⟨done, query', later, t, v, rfl, complete, ends⟩ := ih failed
        refine ⟨(name, query) :: done, query', later, t, v, rfl, ?_, ends⟩
        rw [ofQueries_ok run, complete]

/-- The results of a complete run are those of its queries, in their order. -/
theorem queries_of_complete {queries : List (String × String)}
    (complete : (ofQueries setting options queries s).1.failure = none) :
    (ofQueries setting options queries s).1.results.map (fun r => (r.id, r.query)) = queries := by
  induction queries generalizing s with
  | nil => rfl
  | cons first rest ih =>
      obtain ⟨id, query⟩ := first
      rcases run : (Step.analyse setting options id query).outcome s with ⟨e | result, u⟩
      · rw [ofQueries_error run] at complete
        exact nomatch complete
      · obtain ⟨parsed, bound, v, -, -, last⟩ := Step.gives_analyse run
        rw [ofQueries_ok run] at complete ⊢
        rw [List.map_cons, ih complete, (Step.yields_analyseBound bound v _ _ last).1]

end Run

end IndexAdvisor

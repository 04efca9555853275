import TemplateDeps.Graph.Client
import TemplateDeps.Proofs.Graph.Growth
import TemplateDeps.Proofs.Graph.Positions

/-!
# Clients commute

Renders that share a graph run side by side, and nothing but the order within each of them is known. By
`interleavings_agree` this is enough. Whatever the schedule, every call succeeds, and in the end the edges of
each template and the records of each edge are the same but for their order. The positions that a client is
given do depend on the schedule, since other clients may have declared edges first; what it does with them
does not.

* `historyOf` speaks of an edge by its declaration instead of its position. Declaring leaves every such
  history alone (`Coherent.historyOf_apply_declare`), and a record goes to one of them
  (`Coherent.historyOf_apply_record`).
* `Session.Served` is the invariant of a run: what the calls made so far have left in the graph, and that the
  positions which the clients hold are those of their edges. `Served.perform` is the step, and
  `exists_served_run` the run.
* Two schedules of the same programs consist of the same calls (`Interleaves.perm`). Whatever depends only on
  the calls is therefore the same for both.
-/

namespace TemplateDeps

namespace Graph

variable {g : Graph}

/-! ## Edges by their declarations -/

/-- The records of the edge of `owner` with declaration `d`. There are none if there is no such edge. -/
def historyOf (g : Graph) (owner : String) (d : Declaration) : List Resolution :=
  ((g.edgeId? owner d).map (g.history owner)).getD []

/-- A declared edge starts without records, and the other edges keep theirs. -/
theorem Coherent.historyOf_apply_declare (h : g.Coherent) (o owner : String) (e d : Declaration) :
    (g.apply (.declare o e)).historyOf owner d = g.historyOf owner d := by
  have hsame : ∀ id, (g.apply (.declare o e)).history owner id = g.history owner id := by
    intro id
    rw [h.history_apply]
    simp [Operation.recordOf?]
  unfold historyOf
  cases hold : g.edgeId? owner d with
  | some id => simp [h.edgeId?_apply _ hold, hsame]
  | none =>
    cases hnew : (g.apply (.declare o e)).edgeId? owner d with
    | none => rfl
    | some id =>
      -- The edge is new, and its position is behind those that were there.
      have hle : (g.declarations owner).length ≤ id := by
        by_contra hlt
        have hat := List.getElem?_eq_getElem (Nat.lt_of_not_le hlt)
        have hkept := h.getElem?_declarations_applyAll [.declare o e] hat
        have heq := Option.some.inj (hkept.symm.trans (getElem?_declarations hnew))
        exact edgeId?_eq_none_iff.1 hold (heq ▸ List.getElem_mem _)
      simp [hsame, history_eq_nil hle]

/-- A record at the position of an edge goes to the history of this edge. -/
theorem Coherent.historyOf_apply_record (h : g.Coherent) {o : String} {e : Declaration} {id : EdgeId}
    (hid : g.edgeId? o e = some id) (name owner : String) (d : Declaration) :
    (g.apply (.record o id name)).historyOf owner d =
      g.historyOf owner d ++ if o = owner ∧ e = d then [⟨name, true⟩] else [] := by
  have hedge : (g.apply (.record o id name)).edgeId? owner d = g.edgeId? owner d := by
    rw [edgeId?_eq_findIdx?, edgeId?_eq_findIdx?, h.declarations_apply]
    rfl
  unfold historyOf
  rw [hedge]
  cases hplace : g.edgeId? owner d with
  | none =>
    have hother : ¬ (o = owner ∧ e = d) := by
      rintro ⟨rfl, rfl⟩
      rw [hid] at hplace
      cases hplace
    simp [hother]
  | some place =>
    have hlt := (List.getElem?_eq_some_iff.1 (getElem?_declarations hplace)).1
    have hiff : (o = owner ∧ id = place) ↔ (o = owner ∧ e = d) := by
      refine and_congr_right ?_
      rintro rfl
      constructor
      · rintro rfl
        exact Option.some.inj ((getElem?_declarations hid).symm.trans (getElem?_declarations hplace))
      · rintro rfl
        exact Option.some.inj (hid.symm.trans hplace)
    simp only [Option.map_some, Option.getD_some, h.history_apply, reduceCtorEq, if_false,
      Operation.recordOf?, hiff]
    by_cases hthis : o = owner ∧ e = d
    · simp [hthis, hlt]
    · simp [hthis]

/-- A name was reached when some edge, given by its declaration, has a current record of it. -/
theorem Reachable.reached_eq_true_iff (h : g.Reachable) {name : String} :
    g.reached name = true ↔ ∃ owner d, ⟨name, true⟩ ∈ g.historyOf owner d := by
  rw [h.coherent.reached_eq_true_iff]
  constructor
  · rintro ⟨owner, id, hr⟩
    have hlt : id < (g.declarations owner).length := by
      by_contra hge
      rw [history_eq_nil (Nat.le_of_not_lt hge)] at hr
      cases hr
    have hid := h.edgeId?_of_getElem? (List.getElem?_eq_getElem hlt)
    refine ⟨owner, (g.declarations owner)[id], ?_⟩
    rw [historyOf, hid]
    exact hr
  · rintro ⟨owner, d, hr⟩
    unfold historyOf at hr
    cases hid : g.edgeId? owner d with
    | none => simp [hid] at hr
    | some id => exact ⟨owner, id, by simpa [hid] using hr⟩

/-! ## Schedules -/

section Schedules

variable {ι : Type} [DecidableEq ι] {α : Type}

/-- A client has in a schedule what it has in the two parts of it. -/
theorem part_append (i : ι) (us vs : List (ι × α)) : part i (us ++ vs) = part i us ++ part i vs := by
  simp [part]

/-- A client has what the schedule lists for it. -/
theorem mem_part_iff {i : ι} {schedule : List (ι × α)} {a : α} :
    a ∈ part i schedule ↔ (i, a) ∈ schedule := by
  simp [part]

/-- What is picked out of a schedule is picked out of the part of each client. -/
theorem part_filterMap {β : Type} (f : α → Option β) (i : ι) (schedule : List (ι × α)) :
    part i (schedule.filterMap fun c => (f c.2).map (c.1, ·)) = (part i schedule).filterMap f := by
  induction schedule with
  | nil => rfl
  | cons c rest ih =>
    rw [← List.singleton_append, List.filterMap_append, part_append, part_append, ih,
      List.filterMap_append]
    congr 1
    by_cases hi : c.1 = i
    · cases hf : f c.2 <;> simp [part, hi, hf]
    · cases hf : f c.2 <;> simp [part, hi, hf]

/-- A client has a member as often as the schedule lists it for the client. -/
theorem count_part [DecidableEq α] (i : ι) (a : α) (schedule : List (ι × α)) :
    (part i schedule).count a = schedule.count (i, a) := by
  induction schedule with
  | nil => rfl
  | cons c rest ih =>
    obtain ⟨j, b⟩ := c
    rw [← List.singleton_append, part_append, List.count_append, List.count_append, ih]
    by_cases hj : j = i
    · simp [part, hj, List.count_singleton]
    · simp [part, hj]

/-- Schedules of the same lists have the same members, each as often. -/
theorem Interleaves.perm [DecidableEq α] {lists : ι → List α} {s t : List (ι × α)}
    (hs : Interleaves lists s) (ht : Interleaves lists t) : s.Perm t := by
  rw [List.perm_iff_count]
  rintro ⟨i, a⟩
  rw [← count_part, ← count_part, hs i, ht i]

end Schedules

/-! ## What a call contributes -/

/-- The declaration that a call adds to those of `owner`, unless it is there. -/
def Call.edgeOf? (owner : String) : Call → Option Declaration
  | declare o d => if o = owner then some d else none
  | report .. => none

/-- The name that a call adds to the history of the edge of `owner` with declaration `d`, if the graph
tracks the render that the call comes from. -/
def Call.reportOf? (g : Graph) (owner : String) (d : Declaration) : Call → Option String
  | declare .. => none
  | report mode o e name => if (o = owner ∧ e = d) ∧ g.tracks mode = true then some name else none

section Session

variable {ι : Type} [DecidableEq ι] {i : ι} {call : Call} {done : List (ι × Call)} {s : Session ι}

/-- The declarations that the calls of a schedule add to those of `owner`. -/
def declared (schedule : List (ι × Call)) (owner : String) : List Declaration :=
  schedule.filterMap fun c => c.2.edgeOf? owner

/-- The names that the calls of a schedule report on the edge of `owner` with declaration `d`, each with the
client that reports it. -/
def reported (g : Graph) (schedule : List (ι × Call)) (owner : String) (d : Declaration) :
    List (ι × String) :=
  schedule.filterMap fun c => (c.2.reportOf? g owner d).map (c.1, ·)

/-- The calls `done` were made since the graph `g`. They have added their declarations and their reports, and
what a client holds for an edge is the position of this edge. -/
structure Session.Served (g : Graph) (done : List (ι × Call)) (s : Session ι) : Prop where
  reachable : s.graph.Reachable
  names : s.graph.names = g.names
  watchConcurrent : s.graph.watchConcurrent = g.watchConcurrent
  held : ∀ i owner d, .declare owner d ∈ part i done →
    ∃ id, s.held i owner d = some id ∧ s.graph.edgeId? owner d = some id
  declarations : ∀ owner,
    s.graph.declarations owner = adjoinAll (g.declarations owner) (declared done owner)
  histories : ∀ owner d, s.graph.historyOf owner d =
    g.historyOf owner d ++ (reported g done owner d).map fun r => ⟨r.2, true⟩

namespace Session.Served

/-- Before the first call the graph is as it was. -/
theorem start (hg : g.Reachable) : Served g [] (start g : Session ι) where
  reachable := hg
  names := rfl
  watchConcurrent := rfl
  held _ _ _ hmem := absurd hmem List.not_mem_nil
  declarations _ := rfl
  histories _ _ := (List.append_nil _).symm

/-- The renders that are tracked stay the same. -/
theorem tracks_eq (h : Served g done s) (mode : RenderMode) : s.graph.tracks mode = g.tracks mode := by
  cases mode with
  | sync => rfl
  | concurrent => exact h.watchConcurrent

/-- A declaration of an edge succeeds, and the client is given the position of this edge. -/
theorem perform_declare (h : Served g done s) {owner : String} (howner : owner ∈ g.names)
    (d : Declaration) :
    ∃ next, s.perform (i, .declare owner d) = some next ∧
      Served g (done ++ [(i, .declare owner d)]) next := by
  have hcoherent := h.reachable.coherent
  have hknown : owner ∈ s.graph.names := h.names.symm ▸ howner
  obtain ⟨id, hdeclare, hid⟩ := hcoherent.declare_eq_ok hknown d
  refine ⟨_, by rw [perform, hdeclare], ?_⟩
  constructor
  · exact h.reachable.apply (.declare owner d)
  · exact (hcoherent.names_apply (.declare owner d)).trans h.names
  · exact (watchConcurrent_apply s.graph (.inl rfl)).trans h.watchConcurrent
  · intro j o e hmem
    dsimp only
    by_cases hthis : j = i ∧ o = owner ∧ e = d
    · obtain ⟨rfl, rfl, rfl⟩ := hthis
      exact ⟨id, if_pos ⟨rfl, rfl, rfl⟩, hid⟩
    · -- The other positions were handed out before, and are kept.
      have hold : .declare o e ∈ part j done := by
        rw [mem_part_iff] at hmem ⊢
        refine (List.mem_append.1 hmem).resolve_right fun hlast => hthis ?_
        simpa using hlast
      obtain ⟨place, hplace, hat⟩ := h.held j o e hold
      exact ⟨place, by rw [if_neg hthis, hplace], hcoherent.edgeId?_apply _ hat⟩
  · intro o
    rw [hcoherent.declarations_apply, declared, List.filterMap_append, adjoinAll_append, ← declared,
      ← h.declarations]
    by_cases ho : owner = o
    · subst ho
      simp [Operation.edgeOf?, Call.edgeOf?, hknown]
    · simp [Operation.edgeOf?, Call.edgeOf?, ho]
  · intro o e
    rw [hcoherent.historyOf_apply_declare, h.histories]
    simp [reported, Call.reportOf?]

/-- A report on an edge that the client declared succeeds. It adds a record to the history of this edge, if
the render is tracked, and does nothing otherwise. -/
theorem perform_report (h : Served g done s) {owner : String} {d : Declaration}
    (hdeclared : .declare owner d ∈ part i done) (mode : RenderMode) (name : String) :
    ∃ next, s.perform (i, .report mode owner d name) = some next ∧
      Served g (done ++ [(i, .report mode owner d name)]) next ∧
      (g.tracks mode = false → next = s) := by
  have hcoherent := h.reachable.coherent
  obtain ⟨id, hheld, hid⟩ := h.held i owner d hdeclared
  have hpart : ∀ j o e, .declare o e ∈ part j (done ++ [(i, .report mode owner d name)]) →
      .declare o e ∈ part j done := by
    intro j o e hmem
    rw [mem_part_iff] at hmem ⊢
    simpa using hmem
  have hdeclarations : ∀ o, declared (done ++ [(i, .report mode owner d name)]) o = declared done o := by
    intro o
    simp [declared, Call.edgeOf?]
  by_cases htracks : g.tracks mode = true
  · have hperform : s.perform (i, .report mode owner d name) =
        some { s with graph := s.graph.apply (.record owner id name) } := by
      rw [perform, hheld]
      dsimp only
      rw [recordIn, h.tracks_eq, if_pos htracks, record_eq_ok hid]
    refine ⟨_, hperform, ?_, fun hoff => absurd htracks (by simp [hoff])⟩
    constructor
    · exact h.reachable.apply (.record owner id name)
    · exact (hcoherent.names_apply (.record owner id name)).trans h.names
    · exact (watchConcurrent_apply s.graph (.inr ⟨owner, id, name, rfl⟩)).trans h.watchConcurrent
    · intro j o e hmem
      obtain ⟨place, hplace, hat⟩ := h.held j o e (hpart j o e hmem)
      exact ⟨place, hplace, hcoherent.edgeId?_apply _ hat⟩
    · intro o
      rw [hdeclarations, ← h.declarations, hcoherent.declarations_apply]
      rfl
    · intro o e
      rw [hcoherent.historyOf_apply_record hid, h.histories]
      by_cases hthis : owner = o ∧ d = e
      · simp [reported, Call.reportOf?, hthis, htracks]
      · simp [reported, Call.reportOf?, hthis]
  · have hperform : s.perform (i, .report mode owner d name) = some s := by
      rw [perform, hheld]
      dsimp only
      rw [recordIn, h.tracks_eq, if_neg htracks]
    refine ⟨s, hperform, ?_, fun _ => rfl⟩
    refine ⟨h.reachable, h.names, h.watchConcurrent, ?_, ?_, ?_⟩
    · exact fun j o e hmem => h.held j o e (hpart j o e hmem)
    · intro o
      rw [hdeclarations, ← h.declarations]
    · intro o e
      rw [h.histories]
      simp [reported, Call.reportOf?, htracks]

/-- A call that the client can make succeeds. -/
theorem perform (h : Served g done s) (howner : call.owner ∈ g.names)
    (hallowed : call.Allowed (part i done)) :
    ∃ next, s.perform (i, call) = some next ∧ Served g (done ++ [(i, call)]) next := by
  cases call with
  | declare owner d => exact h.perform_declare howner d
  | report mode owner d name =>
    obtain ⟨next, hperform, hserved, -⟩ := h.perform_report hallowed mode name
    exact ⟨next, hperform, hserved⟩

end Session.Served

/-! ## Runs -/

/-- In calls that a client can make one after the other, each one can be made after those before it. -/
theorem Call.Ordered.allowed {before after : List Call} (h : Ordered (before ++ call :: after)) :
    call.Allowed before := by
  have hcall := h before.length (by simp)
  simpa using hcall

/-- One more call is made on the session that the calls before it lead to. -/
theorem Session.run_concat (s : Session ι) (done : List (ι × Call)) (c : ι × Call) :
    s.run (done ++ [c]) = (s.run done).bind (·.perform c) := by
  simp [run, List.foldlM_append]

section Programs

variable {programs : ι → List Call} {schedule rest : List (ι × Call)}

/-- Wherever a schedule is stopped, the calls before have been served. -/
theorem exists_served_run (hg : g.Reachable) (hordered : ∀ i, Call.Ordered (programs i))
    (howners : ∀ i, ∀ call ∈ programs i, call.owner ∈ g.names) (hs : Interleaves programs (done ++ rest)) :
    ∃ s : Session ι, (Session.start g).run done = some s ∧ s.Served g done := by
  induction done using List.reverseRecOn generalizing rest with
  | nil => exact ⟨.start g, rfl, .start hg⟩
  | append_singleton done c ih =>
    obtain ⟨i, call⟩ := c
    obtain ⟨s, hrun, hserved⟩ := ih (by rwa [List.append_assoc] at hs)
    have hprogram : programs i = part i done ++ call :: part i rest := by
      rw [← hs i, part_append, part_append]
      simp [part]
    have howner : call.owner ∈ g.names := howners i call (by simp [hprogram])
    obtain ⟨next, hperform, hnext⟩ := hserved.perform howner (hprogram ▸ hordered i).allowed
    exact ⟨next, by rw [Session.run_concat, hrun, Option.bind_some, hperform], hnext⟩

/-- What a run of a schedule has to do for its clients. No call fails. A client holds the positions of its
edges. The history of each edge goes on with what the clients report on it, the reports of each client in
their order. A report from a concurrent render does nothing unless such renders are tracked. -/
structure Session.Outcome (g : Graph) (programs : ι → List Call) (schedule : List (ι × Call))
    (s : Session ι) : Prop where
  run : (start g).run schedule = some s
  held : ∀ i owner d, .declare owner d ∈ programs i →
    ∃ id, s.held i owner d = some id ∧ (s.graph.declarations owner)[id]? = some d
  histories : ∀ owner d, ∃ reports : List (ι × String),
    Interleaves (fun i => (programs i).filterMap (Call.reportOf? g owner d)) reports ∧
    s.graph.historyOf owner d = g.historyOf owner d ++ reports.map fun r => ⟨r.2, true⟩
  silent : ∀ done i owner d name rest,
    schedule = done ++ (i, .report .concurrent owner d name) :: rest → g.watchConcurrent = false →
    ∃ mid, (start g).run done = some mid ∧
      mid.perform (i, .report .concurrent owner d name) = some mid

/-- The run of every schedule of programs that the clients can make has this outcome. -/
theorem exists_outcome (hg : g.Reachable) (hordered : ∀ i, Call.Ordered (programs i))
    (howners : ∀ i, ∀ call ∈ programs i, call.owner ∈ g.names) (hs : Interleaves programs schedule) :
    ∃ s : Session ι, s.Outcome g programs schedule ∧ s.Served g schedule := by
  have hall : Interleaves programs (schedule ++ []) := by rwa [List.append_nil]
  obtain ⟨s, hrun, hserved⟩ := exists_served_run hg hordered howners hall
  refine ⟨s, ⟨hrun, ?_, ?_, ?_⟩, hserved⟩
  · intro i owner d hmem
    rw [← hs i] at hmem
    obtain ⟨id, hheld, hid⟩ := hserved.held i owner d hmem
    exact ⟨id, hheld, getElem?_declarations hid⟩
  · intro owner d
    refine ⟨reported g schedule owner d, fun i => ?_, hserved.histories owner d⟩
    rw [reported, part_filterMap, hs i]
  · intro done i owner d name rest hschedule hoff
    subst hschedule
    obtain ⟨mid, hmid, hbefore⟩ := exists_served_run hg hordered howners hs
    have hdeclared : .declare owner d ∈ part i done := by
      have hprogram : programs i = part i done ++ .report .concurrent owner d name :: part i rest := by
        rw [← hs i, part_append]
        simp [part]
      exact (hprogram ▸ hordered i).allowed
    obtain ⟨next, hperform, -, hsame⟩ := hbefore.perform_report hdeclared .concurrent name
    rw [hsame hoff] at hperform
    exact ⟨mid, hmid, hperform⟩

/-- Clients of a shared graph commute. Let every client make its calls in an order in which it can make them,
about templates that are declared when they start, and take two schedules that keep these orders. Both run
without a failure, and with the same outcome but for positions and order: each template ends with the same
declarations, each edge with the same records, among them those that it had before and then those of each
client in their order, and the same templates were used. -/
theorem interleavings_agree (hg : g.Reachable) (hordered : ∀ i, Call.Ordered (programs i))
    (howners : ∀ i, ∀ call ∈ programs i, call.owner ∈ g.names) {s t : List (ι × Call)}
    (hs : Interleaves programs s) (ht : Interleaves programs t) :
    ∃ u v : Session ι, u.Outcome g programs s ∧ v.Outcome g programs t ∧
      (∀ owner, (u.graph.declarations owner).Perm (v.graph.declarations owner)) ∧
      (∀ owner d, (u.graph.historyOf owner d).Perm (v.graph.historyOf owner d)) ∧
      u.graph.used.map (·.name) = v.graph.used.map (·.name) := by
  obtain ⟨u, hu, hserved⟩ := exists_outcome hg hordered howners hs
  obtain ⟨v, hv, hserved'⟩ := exists_outcome hg hordered howners ht
  have hperm : s.Perm t := hs.perm ht
  have hhistories : ∀ owner d, (u.graph.historyOf owner d).Perm (v.graph.historyOf owner d) := by
    intro owner d
    rw [hserved.histories, hserved'.histories]
    exact ((hperm.filterMap _).map _).append_left _
  refine ⟨u, v, hu, hv, ?_, hhistories, ?_⟩
  · intro owner
    rw [List.perm_ext_iff_of_nodup (hserved.reachable.nodup_declarations owner)
      (hserved'.reachable.nodup_declarations owner)]
    intro d
    have hsame : d ∈ declared s owner ↔ d ∈ declared t owner := (hperm.filterMap _).mem_iff
    rw [hserved.declarations, hserved'.declarations, mem_adjoinAll, mem_adjoinAll, hsame]
  · rw [map_name_used, map_name_used, hserved.names, hserved'.names]
    refine List.filter_congr fun name _ => ?_
    rw [Bool.eq_iff_iff, hserved.reachable.reached_eq_true_iff, hserved'.reachable.reached_eq_true_iff]
    exact exists_congr fun owner => exists_congr fun d => (hhistories owner d).mem_iff

end Programs

/-- Two clients declare the same include, one of them after another edge. Its position depends on who comes
first, and its records do not, up to their order. -/
theorem interleavings_agree_page :
    let shared : Declaration := .including .dynamic [] (some true) (some false)
    let frame : Declaration := .extending (.named "frame")
    let g := empty.applyAll [.declareTemplate "page" none]
    let first : List Call := [.declare "page" shared, .report .sync "page" shared "list"]
    let second : List Call := [.declare "page" frame, .declare "page" shared,
      .report .concurrent "page" frame "frame", .report .sync "page" shared "chart"]
    let s := first.map (false, ·) ++ second.map (true, ·)
    let t := second.map (true, ·) ++ first.map (false, ·)
    ∃ u v : Session Bool, (Session.start g).run s = some u ∧ (Session.start g).run t = some v ∧
      u.held false "page" shared = some 0 ∧ v.held false "page" shared = some 1 ∧
      (u.graph.historyOf "page" shared).Perm (v.graph.historyOf "page" shared) ∧
      u.graph.historyOf "page" frame = [] := by
  intro shared frame g first second s t
  have hs : Interleaves (fun client => if client then second else first) s := by
    unfold Interleaves
    decide
  have ht : Interleaves (fun client => if client then second else first) t := by
    unfold Interleaves
    decide
  obtain ⟨u, v, hu, hv, -, hhistories, -⟩ := interleavings_agree (g := g) ⟨_, rfl⟩
    (by decide) (by decide) hs ht
  refine ⟨u, v, hu.run, hv.run, ?_, ?_, hhistories "page" shared, ?_⟩
  · have hheld : ((Session.start g).run s).map (·.held false "page" shared) = some (some 0) := by
      decide +kernel
    rw [hu.run] at hheld
    exact Option.some.inj hheld
  · have hheld : ((Session.start g).run t).map (·.held false "page" shared) = some (some 1) := by
      decide +kernel
    rw [hv.run] at hheld
    exact Option.some.inj hheld
  · have hhistory : ((Session.start g).run s).map (·.graph.historyOf "page" frame) = some [] := by
      decide +kernel
    rw [hu.run] at hhistory
    exact Option.some.inj hhistory

end Session

end Graph

end TemplateDeps

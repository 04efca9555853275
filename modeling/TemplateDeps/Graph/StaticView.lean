import TemplateDeps.Graph.Basic

/-!
# The static view of a graph

Only literal targets are known before a render. Each of them is an arc from the owner of the edge to
the target, which need not be a template of the graph. Edges of several kinds between the same two
names share one arc that holds every kind. The view answers who points at a name, what a template
points at, and which templates go stale when a name changes: all that reach it over arcs. Answers are
sorted and without repeats.
-/

namespace TemplateDeps

/-- The declared dependency of a template on one literal target. -/
structure Arc where
  /-- The template that declares it. -/
  owner : String
  /-- The name it points at. -/
  target : String
  /-- The kind of the edge that came first. -/
  first : Kind
  /-- The other kinds of edges behind it. -/
  others : List Kind
  deriving DecidableEq, Repr

namespace Arc

/-- The kinds of the edges behind the arc, each once. -/
def kinds (a : Arc) : List Kind :=
  a.first :: a.others

/-- Whether the arc leads from `owner` to `target`. -/
def joins (a : Arc) (owner target : String) : Bool :=
  a.owner = owner && a.target = target

/-- The arc with one more kind of edge behind it. -/
def addKind (a : Arc) (kind : Kind) : Arc :=
  if a.kinds.contains kind then a else { a with others := a.others ++ [kind] }

/-- Put an edge of one kind into a list of arcs: into the arc between the two names, or into a new arc
at the end. -/
def put (owner target : String) (kind : Kind) : List Arc → List Arc
  | [] => [⟨owner, target, kind, []⟩]
  | a :: rest => if a.joins owner target then a.addKind kind :: rest else a :: put owner target kind rest

@[simp] theorem joins_eq_true_iff {a : Arc} {owner target : String} :
    a.joins owner target = true ↔ a.owner = owner ∧ a.target = target := by
  simp [joins]

@[simp] theorem owner_addKind (a : Arc) (kind : Kind) : (a.addKind kind).owner = a.owner := by
  unfold addKind; split <;> rfl

@[simp] theorem target_addKind (a : Arc) (kind : Kind) : (a.addKind kind).target = a.target := by
  unfold addKind; split <;> rfl

/-- Putting in an edge brings in no arc but the one between its ends. -/
theorem ends_of_mem_put {owner target : String} {kind : Kind} {a : Arc} {arcs : List Arc}
    (h : a ∈ put owner target kind arcs) :
    (a.owner = owner ∧ a.target = target) ∨ ∃ b ∈ arcs, b.owner = a.owner ∧ b.target = a.target := by
  induction arcs with
  | nil =>
    obtain rfl := List.mem_singleton.1 h
    exact .inl ⟨rfl, rfl⟩
  | cons b rest ih =>
    rw [put] at h
    split at h
    · rcases List.mem_cons.1 h with rfl | h
      · exact .inr ⟨b, List.mem_cons_self, by simp⟩
      · exact .inr ⟨a, List.mem_cons_of_mem _ h, rfl, rfl⟩
    · rcases List.mem_cons.1 h with rfl | h
      · exact .inr ⟨a, List.mem_cons_self, rfl, rfl⟩
      · exact (ih h).imp_right fun ⟨c, hc, hends⟩ => ⟨c, List.mem_cons_of_mem _ hc, hends⟩

/-- Putting in an edge keeps the arcs apart. -/
theorem pairwise_put (owner target : String) (kind : Kind) {arcs : List Arc}
    (h : arcs.Pairwise (fun a b => ¬ (a.owner = b.owner ∧ a.target = b.target))) :
    (put owner target kind arcs).Pairwise (fun a b => ¬ (a.owner = b.owner ∧ a.target = b.target)) := by
  induction arcs with
  | nil => exact List.pairwise_singleton _ _
  | cons a rest ih =>
    obtain ⟨ha, hrest⟩ := List.pairwise_cons.1 h
    rw [put]
    split
    · exact List.pairwise_cons.2 ⟨fun b hb => by simpa using ha b hb, hrest⟩
    · next hjoins =>
      refine List.pairwise_cons.2 ⟨fun b hb => ?_, ih hrest⟩
      rcases ends_of_mem_put hb with ⟨ho, ht⟩ | ⟨c, hc, ho, ht⟩
      · simpa [ho, ht] using hjoins
      · rw [← ho, ← ht]
        exact ha c hc

end Arc

/-- The declared dependencies on literal targets, as a directed graph of names. -/
structure StaticView where
  /-- The names: the templates and what they point at. -/
  nodes : List String
  arcs : List Arc
  /-- From one name to another there is at most one arc. -/
  apart : arcs.Pairwise (fun a b => ¬ (a.owner = b.owner ∧ a.target = b.target))
  /-- Both ends of an arc are nodes. -/
  closed : ∀ a ∈ arcs, a.owner ∈ nodes ∧ a.target ∈ nodes

namespace StaticView

/-! ## Building a view -/

/-- The view without names. -/
def empty : StaticView := ⟨[], [], .nil, nofun⟩

/-- The view with `name` among its nodes. -/
def addNode (v : StaticView) (name : String) : StaticView where
  nodes := v.nodes.insert name
  arcs := v.arcs
  apart := v.apart
  closed a ha := (v.closed a ha).imp List.mem_insert_of_mem List.mem_insert_of_mem

/-- The view with an edge of one kind from `owner` to `target`. -/
def addArc (v : StaticView) (owner target : String) (kind : Kind) : StaticView where
  nodes := (v.nodes.insert owner).insert target
  arcs := Arc.put owner target kind v.arcs
  apart := Arc.pairwise_put owner target kind v.apart
  closed a ha := by
    rcases Arc.ends_of_mem_put ha with ⟨rfl, rfl⟩ | ⟨b, hb, ho, ht⟩
    · simp
    · have hends := v.closed b hb
      simp_all

/-- Add what one target of an edge shows. -/
def addTarget (owner : String) (kind : Kind) (v : StaticView) (target : Target) : StaticView :=
  match target.name? with
  | some name => v.addArc owner name kind
  | none => v

/-- Add all targets of an edge. -/
def addEdge (owner : String) (v : StaticView) (e : Edge) : StaticView :=
  e.declaration.targets.foldl (addTarget owner e.declaration.kind) v

/-- Add a template with its edges. -/
def addTemplate (v : StaticView) (t : Template) : StaticView :=
  t.edges.foldl (addEdge t.name) (v.addNode t.name)

end StaticView

/-- The static view of a graph. -/
def Graph.staticView (g : Graph) : StaticView :=
  g.templates.foldl StaticView.addTemplate .empty

namespace StaticView

/-! ## Queries -/

/-- The owners of the arcs into `name`. -/
def sources (v : StaticView) (name : String) : List String :=
  (v.arcs.filter (·.target = name)).map (·.owner)

/-- The templates that point at `name`. -/
def dependentsOf (v : StaticView) (name : String) : List String :=
  if v.nodes.contains name then (v.sources name).mergeSort (· ≤ ·) else []

/-- The order in which dependencies are listed: by name, then by kind. -/
def listedBefore (a b : String × Kind) : Bool :=
  a.1 < b.1 || a.1 = b.1 && a.2.rank ≤ b.2.rank

/-- What `name` points at, with every kind of edge that leads there. -/
def dependenciesOf (v : StaticView) (name : String) : List (String × Kind) :=
  if v.nodes.contains name then
    ((v.arcs.filter (·.owner = name)).flatMap fun a => a.kinds.map (a.target, ·)).mergeSort listedBefore
  else []

/-- The arcs that end outside `visited`. -/
def arcsPast (v : StaticView) (visited : List String) : List Arc :=
  v.arcs.filter fun a => !visited.contains a.target

/-- One more visited name takes away the arcs into it. -/
theorem arcsPast_cons (v : StaticView) (name : String) (visited : List String) :
    v.arcsPast (name :: visited) = (v.arcsPast visited).filter fun a => a.target ≠ name := by
  simp [arcsPast, List.filter_filter]

/-- A new name that an arc ends in leaves fewer arcs past the visited ones. -/
theorem length_arcsPast_cons_lt {v : StaticView} {name : String} {visited : List String}
    (hnew : name ∉ visited) (hsources : v.sources name ≠ []) :
    (v.arcsPast (name :: visited)).length < (v.arcsPast visited).length := by
  obtain ⟨owner, howner⟩ := List.exists_mem_of_ne_nil _ hsources
  obtain ⟨a, ha, -⟩ := List.mem_map.1 howner
  obtain ⟨hmem, htarget⟩ := List.mem_filter.1 ha
  rw [arcsPast_cons, List.length_filter_lt_length_iff_exists]
  refine ⟨a, List.mem_filter.2 ⟨hmem, ?_⟩, ?_⟩ <;> simp_all

/-- Go on with a search against the arcs. The names of the stack are taken from the top, and one that
was not visited before puts the owners of the arcs into it on top of the stack. Such a name takes away
arcs that end outside, or has no owners to add, so that the stack gets shorter. -/
def visit (v : StaticView) : (stack visited : List String) → List String
  | [], visited => visited
  | current :: stack, visited =>
    if visited.contains current then v.visit stack visited
    else v.visit (v.sources current ++ stack) (current :: visited)
termination_by stack visited => ((v.arcsPast visited).length, stack.length)
decreasing_by
  · exact Prod.Lex.right _ (Nat.lt_succ_self _)
  · next hnew =>
    by_cases hsources : v.sources current = []
    · have hle : (v.arcsPast (current :: visited)).length ≤ (v.arcsPast visited).length := by
        rw [arcsPast_cons]
        exact List.length_filter_le _ _
      exact Prod.Lex.right' _ hle (by simp [hsources])
    · exact Prod.Lex.left _ _ (length_arcsPast_cons_lt (by simpa using hnew) hsources)

/-- The templates that depend on `name` over any positive number of arcs, `name` itself left out. -/
def affectedBy (v : StaticView) (name : String) : List String :=
  sortedNames ((v.visit (v.dependentsOf name) []).filter (· ≠ name))

end StaticView

end TemplateDeps

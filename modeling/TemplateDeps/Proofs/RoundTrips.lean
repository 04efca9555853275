import TemplateDeps.Proofs.StoppedCompilation

/-!
# Round trips of written targets

A target is written and read. `written_targets_round_trip` says how the two go together. What is read from a
text is written as this text without the blanks around it, and is read again from what is written. The other
way round, a name comes back from its text if it is `Verbatim`, and a variable comes back if it does not end
with a blank: a dollar sign stands before the blanks that it may begin with.

* `TargetRef.written_of_parse?` is the first trip, `TargetRef.parse?_self_iff` and
  `TargetRef.parse?_written_var_iff` are the second one for names and for variables.
* Reading depends on nothing but the trimmed text (`TargetRef.parse?_trim`). So does everything that comes of
  it: `EdgeSpec.plan_trimmed` says for one edge that trimming its targets changes no more than the text of a
  complaint about it, `Graph.compile_trimmed` says it for the compilation of an entry.
-/

namespace TemplateDeps

/-! ## There and back -/

/-- Blanks around a text are trimmed away. -/
theorem Text.trim_pad {before raw after : String} (hbefore : ∀ c ∈ before.toList, isBlank c = true)
    (hafter : ∀ c ∈ after.toList, isBlank c = true) : trim (before ++ raw ++ after) = trim raw := by
  rw [← String.toList_inj, toList_trim, toList_trim, String.toList_append, String.toList_append,
    trimChars_pad hbefore hafter]

namespace TargetRef

variable {raw name : String} {target : TargetRef}

/-- Only the trimmed text is read. -/
theorem parse?_trim (raw : String) : parse? (Text.trim raw) = parse? raw := by
  rw [parse?, Text.toList_trim, Text.trimChars_trimChars, parse?]

/-- Texts that are equal once they are trimmed are read alike. -/
theorem parse?_congr {raw' : String} (h : Text.trim raw = Text.trim raw') : parse? raw = parse? raw' := by
  rw [← parse?_trim raw, h, parse?_trim]

/-- What is read is written as the trimmed text. -/
theorem written_of_parse? (h : parse? raw = some target) : target.written = Text.trim raw := by
  cases target with
  | literal name =>
    obtain ⟨-, -, hname⟩ := ofTrimmed?_eq_literal_iff.1 h
    exact hname
  | var name =>
    obtain ⟨htrim, -⟩ := ofTrimmed?_eq_var_iff.1 h
    rw [← String.toList_inj, Text.toList_trim, htrim]
    exact String.toList_append

/-- The variables that come back from their text are those that do not end with a blank. -/
theorem parse?_written_var_iff :
    parse? (var name).written = some (.var name) ↔
      name ≠ "" ∧ ∀ c ∈ name.toList.getLast?, Text.isBlank c = false := by
  refine ⟨parse?_eq_var, fun ⟨hempty, hback⟩ => ofTrimmed?_eq_var_iff.2 ⟨?_, hempty⟩⟩
  have hchars : (var name).written.toList = '$' :: name.toList := String.toList_append
  rw [hchars]
  refine Text.trimChars_eq_self_iff.2 ⟨?_, ?_⟩
  · rintro c hc
    obtain rfl : '$' = c := Option.some.inj hc
    decide
  · rintro c hc
    -- Something stands behind the dollar sign, so that it is not the last character.
    have hne : name.toList ≠ [] := fun hnil => hempty (String.toList_eq_nil_iff.1 hnil)
    rw [List.getLast?_cons_of_ne_nil hne] at hc
    exact hback c hc

end TargetRef

/-! ## Blanks around the targets of an entry -/

/-- The include with its candidates trimmed. -/
def IncludeSpec.trimmed (spec : IncludeSpec) : IncludeSpec :=
  { spec with targets := spec.targets.map Text.trim }

/-- The import with its target trimmed. -/
def ImportSpec.trimmed (spec : ImportSpec) : ImportSpec :=
  { spec with target := Text.trim spec.target }

/-- The edge with its targets trimmed. -/
def EdgeSpec.trimmed : EdgeSpec → EdgeSpec
  | extending target => extending (Text.trim target)
  | including spec => including spec.trimmed
  | importing spec => importing spec.trimmed

/-- The entry with the targets of its edges trimmed. -/
def Entry.trimmed (entry : Entry) : Entry where
  file := entry.file
  parent := entry.parent.map Text.trim
  includes := entry.includes.map IncludeSpec.trimmed
  imports := entry.imports.map ImportSpec.trimmed

/-- The fault with the target trimmed that it may quote. What else is said of a compiled entry quotes no
target. -/
def Fault.trimmed : Fault → Fault
  | .manifest (.ambiguousBinding owner target) => .manifest (.ambiguousBinding owner (Text.trim target))
  | fault => fault

/-- The compilation with the target trimmed that its fault may quote. -/
def Compilation.trimmed (c : Compilation) : Compilation :=
  { c with fault := c.fault.map Fault.trimmed }

/-- The trimmed edge has the same candidates. -/
theorem EdgeSpec.candidates_trimmed (spec : EdgeSpec) : spec.trimmed.candidates = spec.candidates := by
  have hwritten : spec.trimmed.written = spec.written.map Text.trim := by
    cases spec <;> rfl
  have hparse : TargetRef.parse? ∘ Text.trim = TargetRef.parse? := by
    funext raw
    rw [Function.comp_apply, TargetRef.parse?_trim]
  rw [candidates, hwritten, List.filterMap_map, hparse, candidates]

/-- Trimming an entry trims its edges. -/
theorem Entry.edges_trimmed (entry : Entry) : entry.trimmed.edges = entry.edges.map EdgeSpec.trimmed := by
  simp [edges, trimmed, Option.toList_map, Function.comp_def, EdgeSpec.trimmed]

section Reading

variable (owner : String)

/-- A target is read as what is left of it when it is trimmed. -/
theorem readTarget_trim (raw : String) : readTarget owner (Text.trim raw) = readTarget owner raw := by
  rw [readTarget, TargetRef.parse?_trim, readTarget]

/-- What an import binds does not depend on its target, except for what is said if it is ambiguous. -/
theorem ImportSpec.binding_trimmed (spec : ImportSpec) :
    spec.trimmed.binding owner = (spec.binding owner).mapError Fault.trimmed := by
  obtain ⟨target, boundAs, members, withContext⟩ := spec
  cases boundAs <;> cases members <;> rfl

/-- Trimming its targets changes nothing about how an edge is read but the text of a complaint. -/
theorem EdgeSpec.plan_trimmed (spec : EdgeSpec) :
    spec.trimmed.plan owner = (spec.plan owner).mapError Fault.trimmed := by
  cases spec with
  | extending raw =>
    rw [trimmed, plan, readTarget_trim, plan]
    by_cases hnothing : NamesNothing raw
    · rw [readTarget_of_namesNothing owner hnothing]
      rfl
    · obtain ⟨target, hread⟩ := exists_readTarget owner hnothing
      rw [hread]
      rfl
  | including spec =>
    have hreads : spec.trimmed.targets.mapM (readTarget owner) = spec.targets.mapM (readTarget owner) := by
      have hread : readTarget owner ∘ Text.trim = readTarget owner := by
        funext raw
        rw [Function.comp_apply, readTarget_trim]
      rw [IncludeSpec.trimmed, List.mapM_map, hread]
    rw [trimmed, plan, hreads, plan]
    by_cases hnothing : ∃ raw ∈ spec.targets, NamesNothing raw
    · rw [mapM_readTarget_of_namesNothing owner hnothing]
      rfl
    · obtain ⟨targets, hread⟩ := exists_mapM_readTarget owner hnothing
      rw [hread]
      cases targets <;> rfl
  | importing spec =>
    have htarget : readTarget owner spec.trimmed.target = readTarget owner spec.target :=
      readTarget_trim owner spec.target
    rw [trimmed, plan, htarget, spec.binding_trimmed, plan]
    by_cases hnothing : NamesNothing spec.target
    · rw [readTarget_of_namesNothing owner hnothing]
      rfl
    · obtain ⟨target, hread⟩ := exists_readTarget owner hnothing
      rw [hread]
      cases spec.binding owner <;> rfl

/-- So it is with what the edge declares. -/
theorem EdgeSpec.declaration?_trimmed (spec : EdgeSpec) :
    spec.trimmed.declaration? owner = spec.declaration? owner := by
  rw [declaration?, plan_trimmed, declaration?]
  cases spec.plan owner <;> rfl

/-- One more edge is compiled alike whether its targets are trimmed or not. -/
theorem Compilation.add_trimmed (c : Compilation) (spec : EdgeSpec) :
    c.trimmed.add owner spec.trimmed = (c.add owner spec).trimmed := by
  obtain ⟨graph, edges, _ | fault⟩ := c
  · rw [trimmed, Option.map_none, add, add, EdgeSpec.plan_trimmed]
    cases spec.plan owner with
    | error fault => rfl
    | ok planned =>
      -- The graph is asked the same. If it does not know the owner, there is no target in what it says.
      simp only [Except.mapError, Graph.declare_eq]
      cases graph.template? owner <;> rfl
  · rfl

/-- And so are any more edges. -/
theorem Compilation.foldl_add_trimmed (c : Compilation) (specs : List EdgeSpec) :
    (specs.map EdgeSpec.trimmed).foldl (add owner) c.trimmed = (specs.foldl (add owner) c).trimmed := by
  induction specs generalizing c with
  | nil => rfl
  | cons spec specs ih => rw [List.map_cons, List.foldl_cons, add_trimmed, ih, List.foldl_cons]

end Reading

/-- Trimming the targets of an entry changes nothing about its compilation but the text of a complaint. -/
theorem Graph.compile_trimmed (g : Graph) (name : String) (entry : Entry) :
    g.compile name entry.trimmed = (g.compile name entry).trimmed := by
  rw [compile, Entry.edges_trimmed]
  exact Compilation.foldl_add_trimmed name ⟨g.declareTemplate name entry.file, [], none⟩ entry.edges

/-- Targets make round trips through their text. What is read from a text is written as the text without the
blanks around it, and it is read again from there. No target is read exactly if nothing is left of the text
without these blanks, or a dollar sign alone. A name is read back from its own text exactly if it is not empty,
has no blank at either end and no dollar sign in front. The text of a variable is read back as this variable
exactly if its name is not empty and has no blank at the end.

Blanks around a target do not count. The text is read as if they were not there. Edges that differ only in
blanks around their targets have the same candidates and make the same declaration, if any. Compiled as edges
of an entry, on any graph, they leave the same graph and get the same positions, and if compiling stops then it
stops at the same edge and for the same reason. -/
theorem written_targets_round_trip :
    (∀ raw target, TargetRef.parse? raw = some target →
      target.written = Text.trim raw ∧ TargetRef.parse? target.written = some target) ∧
    (∀ raw, TargetRef.parse? raw = none ↔ Text.trim raw = "" ∨ Text.trim raw = "$") ∧
    (∀ name, TargetRef.parse? (TargetRef.literal name).written = some (.literal name) ↔
      name ≠ "" ∧ Verbatim name) ∧
    (∀ name, TargetRef.parse? (TargetRef.var name).written = some (.var name) ↔
      name ≠ "" ∧ ∀ c ∈ name.toList.getLast?, Text.isBlank c = false) ∧
    (∀ before raw after : String, (∀ c ∈ before.toList, Text.isBlank c = true) →
      (∀ c ∈ after.toList, Text.isBlank c = true) →
      Text.trim (before ++ raw ++ after) = Text.trim raw ∧
        TargetRef.parse? (before ++ raw ++ after) = TargetRef.parse? raw) ∧
    (∀ owner (spec spec' : EdgeSpec), spec.trimmed = spec'.trimmed →
      spec.candidates = spec'.candidates ∧ spec.declaration? owner = spec'.declaration? owner) ∧
    ∀ (g : Graph) (name : String) (entry entry' : Entry), entry.trimmed = entry'.trimmed →
      (g.compile name entry).graph = (g.compile name entry').graph ∧
      (g.compile name entry).edges = (g.compile name entry').edges ∧
      (g.compile name entry).fault.map Fault.trimmed = (g.compile name entry').fault.map Fault.trimmed := by
  refine ⟨fun raw target htarget => ?_, fun raw => TargetRef.parse?_eq_none_iff,
    fun name => TargetRef.parse?_self_iff, fun name => TargetRef.parse?_written_var_iff,
    fun before raw after hbefore hafter => ?_, fun owner spec spec' hspec => ?_,
    fun g name entry entry' hentry => ?_⟩
  · have hwritten := TargetRef.written_of_parse? htarget
    exact ⟨hwritten, by rw [hwritten, TargetRef.parse?_trim, htarget]⟩
  · have htrim : Text.trim (before ++ raw ++ after) = Text.trim raw := Text.trim_pad hbefore hafter
    exact ⟨htrim, TargetRef.parse?_congr htrim⟩
  · rw [← spec.candidates_trimmed, ← spec.declaration?_trimmed owner, hspec, spec'.candidates_trimmed,
      spec'.declaration?_trimmed owner]
    exact ⟨rfl, rfl⟩
  · have htrimmed : (g.compile name entry).trimmed = (g.compile name entry').trimmed := by
      rw [← g.compile_trimmed, ← g.compile_trimmed, hentry]
    exact ⟨congrArg (·.graph) htrimmed, congrArg (·.edges) htrimmed, congrArg (·.fault) htrimmed⟩

/-- A variable that begins with a blank comes back with it. An entry with blanks around its targets, of which
one is a no-break space, compiles to the edges of the entry without them. -/
theorem written_targets_round_trip_page :
    let spaced : Entry :=
      ⟨none, some " base", [⟨["$side\u00a0", "\tbox\n"], true, true⟩], [⟨" forms ", some "f", none, false⟩]⟩
    let page : Entry :=
      ⟨none, some "base", [⟨["$side", "box"], true, true⟩], [⟨"forms", some "f", none, false⟩]⟩
    (TargetRef.parse? " $ side " = some (.var " side") ∧
      (TargetRef.var " side").written = Text.trim " $ side " ∧
      TargetRef.parse? (TargetRef.var " side").written = some (.var " side")) ∧
    TargetRef.parse? "\u2003box\n" = some (.literal "box") ∧
    spaced.trimmed = page.trimmed ∧
    (Graph.empty.compile "page" spaced).edges = (Graph.empty.compile "page" page).edges ∧
    (Graph.empty.compile "page" page).edges.map (·.id) = [0, 1, 2] := by
  intro spaced page
  obtain ⟨htrip, -, -, -, hpad, -, hcompile⟩ := written_targets_round_trip
  have hside : TargetRef.parse? " $ side " = some (.var " side") := by decide +kernel
  have hbefore : "\u2003".toList.all Text.isBlank = true := by decide +kernel
  have hafter : "\n".toList.all Text.isBlank = true := by decide +kernel
  have hbox := (hpad "\u2003" "box" "\n" (List.all_eq_true.1 hbefore) (List.all_eq_true.1 hafter)).2
  have htrimmed : spaced.trimmed = page.trimmed := by decide +kernel
  refine ⟨⟨hside, htrip _ _ hside⟩, hbox.trans (by decide +kernel), htrimmed, ?_, by decide +kernel⟩
  exact (hcompile Graph.empty "page" spaced page htrimmed).2.1

end TemplateDeps

import TemplateDeps.Declaration

/-!
# Edges and their history

An edge is a declaration together with the names it resolved to, in the order of the renders and with
repeats. A record is current as long as no watch was started after it; starting a watch only clears
that mark, so the history never loses a name.

The records are kept latest first, which makes adding one cheap; `history` puts them in order, and the
statements below are about `resolved` and `currentNames`, which are read off it.
-/

namespace TemplateDeps

/-- The position of an edge among the edges of its template. Positions are handed out in the order of
declaration and never reused. -/
abbrev EdgeId := Nat

/-- One name that an edge resolved to. -/
structure Resolution where
  /-- The template that was reached. -/
  name : String
  /-- Whether no watch was started since. -/
  current : Bool
  deriving DecidableEq, Repr

/-- A declared edge and all that it resolved to. -/
structure Edge where
  declaration : Declaration
  /-- The records, latest first. -/
  log : List Resolution
  deriving DecidableEq, Repr

namespace Edge

/-- An edge that was never followed. -/
def ofDeclaration (d : Declaration) : Edge := ⟨d, []⟩

/-- Note that a render reached `name` through the edge. Every name is accepted, since that of a dynamic
target cannot be checked. -/
def record (e : Edge) (name : String) : Edge :=
  { e with log := ⟨name, true⟩ :: e.log }

/-- Move every record out of the current watch. -/
def startWatch (e : Edge) : Edge :=
  { e with log := e.log.map ({ · with current := false }) }

/-- The records in the order in which they were made. -/
def history (e : Edge) : List Resolution :=
  e.log.reverse

/-- Every name the edge resolved to, in order and with repeats. -/
def resolved (e : Edge) : List String :=
  e.history.map (·.name)

/-- The names resolved since the last watch was started, in order and with repeats. -/
def currentNames (e : Edge) : List String :=
  (e.history.filter (·.current)).map (·.name)

/-- Whether the edge reached `name` in the current watch. -/
def reached (e : Edge) (name : String) : Bool :=
  e.log.any fun r => r.current && r.name = name

@[simp] theorem declaration_record (e : Edge) (name : String) :
    (e.record name).declaration = e.declaration := rfl

@[simp] theorem declaration_startWatch (e : Edge) : e.startWatch.declaration = e.declaration := rfl

/-- A record is added at the end. -/
@[simp] theorem history_record (e : Edge) (name : String) :
    (e.record name).history = e.history ++ [⟨name, true⟩] := by
  simp [history, record]

/-- A record is added at the end. -/
@[simp] theorem resolved_record (e : Edge) (name : String) :
    (e.record name).resolved = e.resolved ++ [name] := by
  simp [resolved]

/-- A new record is current. -/
@[simp] theorem currentNames_record (e : Edge) (name : String) :
    (e.record name).currentNames = e.currentNames ++ [name] := by
  simp [currentNames]

/-- Starting a watch keeps the history. -/
@[simp] theorem resolved_startWatch (e : Edge) : e.startWatch.resolved = e.resolved := by
  simp [resolved, history, startWatch, Function.comp_def]

/-- After a watch was started nothing is current. -/
@[simp] theorem currentNames_startWatch (e : Edge) : e.startWatch.currentNames = [] := by
  simp [currentNames, history, startWatch]

/-- What an edge reached are its current names. -/
theorem reached_eq_true_iff {e : Edge} {name : String} :
    e.reached name = true ↔ name ∈ e.currentNames := by
  simp only [reached, currentNames, history, List.any_eq_true, Bool.and_eq_true, decide_eq_true_eq,
    List.mem_map, List.mem_filter, List.mem_reverse]
  exact exists_congr fun r => by rw [and_assoc]

end Edge

end TemplateDeps

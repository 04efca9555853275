import TemplateDeps.CommandLine.Reading
import TemplateDeps.Proofs.Manifest.Check
import TemplateDeps.Proofs.Manifest.Walks
import TemplateDeps.Proofs.Manifest.WrittenTargets

/-!
# Variables that the command line can set

A manifest mentions a variable by writing a target with a dollar sign, and the command line sets it by an
assignment. The two have rules of their own for what a name is. An assignment is divided at its first equals
sign and its name is trimmed (`parseAssignment_eq_ok_iff`), so its names are `Assignable`: not empty, without
an equals sign, without blanks at the ends. A target is trimmed before the dollar sign is taken off, so a
variable may hold equals signs and begin with blanks.

`variable_settable_iff` says where they meet. The assignable variables are set by writing them in front of
their value, on every command line that is made of such assignments
(`CommandLine.read_render_assignments`), and a render takes the value. No command line at all sets the others
(`CommandLine.assignable_of_read`).
-/

namespace TemplateDeps

/-! ## Bindings -/

/-- Of all bindings of a name the last one counts. -/
theorem NameMap.get?_ofList {α : Type} (l : List (String × α)) (name : String) :
    (NameMap.ofList l).get? name = ((l.filter (·.1 = name)).getLast?).map (·.2) := by
  induction l using List.reverseRecOn with
  | nil => rfl
  | append_singleton l e ih =>
    have hlast : NameMap.ofList (l ++ [e]) = (NameMap.ofList l).insert e.1 e.2 := List.foldl_append
    rw [hlast, get?_insert, List.filter_append]
    by_cases hname : e.1 = name
    · have hpick : [e].filter (·.1 = name) = [e] := by simp [hname]
      rw [if_pos hname.symm, hpick, List.getLast?_concat, Option.map_some]
    · have hpick : [e].filter (·.1 = name) = [] := by simp [hname]
      rw [if_neg (Ne.symm hname), hpick, List.append_nil, ih]

/-- A binding counts if no other one of its name comes after it. -/
theorem NameMap.get?_ofList_of_last {α : Type} (before : List (String × α)) (name : String) (value : α)
    {after : List (String × α)} (h : ∀ e ∈ after, e.1 ≠ name) :
    (NameMap.ofList (before ++ (name, value) :: after)).get? name = some value := by
  have hafter : after.filter (·.1 = name) = [] := by simpa using h
  rw [get?_ofList, List.filter_append, List.filter_cons_of_pos (by simp), hafter, List.getLast?_concat,
    Option.map_some]

/-! ## One assignment -/

/-- A name that an assignment can give: it is not empty, has no equals sign in it and no blank at either
end. -/
structure Assignable (name : String) : Prop where
  nonempty : name ≠ ""
  undivided : '=' ∉ name.toList
  trimmed : Text.trimChars name.toList = name.toList

/-- An assignment is divided at its first equals sign. The trimmed text in front is the name, which must not
be empty, and the text behind is the value. -/
theorem parseAssignment_eq_ok_iff {arg name value : String} :
    parseAssignment arg = .ok (name, value) ↔
      name ≠ "" ∧ ∃ front, arg.toList = front ++ '=' :: value.toList ∧ '=' ∉ front ∧
        Text.trimChars front = name.toList := by
  unfold parseAssignment
  dsimp only
  constructor
  · intro h
    split at h
    · next first rest text hname hdivided =>
      obtain ⟨rfl, rfl⟩ := Prod.mk.inj (Except.ok.inj h)
      rw [String.toList_ofList, String.toList_ofList, ← hdivided]
      refine ⟨fun hempty => ?_, _, List.takeWhile_append_dropWhile.symm, fun hmem => ?_, rfl⟩
      · rw [String.ofList_eq_empty_iff, hname] at hempty
        exact List.cons_ne_nil first rest hempty
      · simpa using List.mem_takeWhile_imp hmem
    · cases h
  · rintro ⟨hne, front, harg, hfront, hname⟩
    have hall : ∀ c ∈ front, decide (c ≠ '=') = true := by
      rintro c hc
      exact decide_eq_true fun heq => hfront (heq ▸ hc)
    have hfirst : arg.toList.takeWhile (· ≠ '=') = front := by
      rw [harg, List.takeWhile_append_of_pos hall, List.takeWhile_cons_of_neg (by simp), List.append_nil]
    have hrest : arg.toList.dropWhile (· ≠ '=') = '=' :: value.toList := by
      rw [harg, List.dropWhile_append_of_pos hall, List.dropWhile_cons_of_neg (by simp)]
    rw [hfirst, hrest, hname]
    cases hchars : name.toList with
    | nil => exact absurd (String.toList_eq_nil_iff.1 hchars) hne
    | cons first rest =>
      show Except.ok (String.ofList (first :: rest), String.ofList value.toList) = _
      rw [← hchars, String.ofList_toList, String.ofList_toList]

/-- An assignable name in front of any value is assigned this value. -/
theorem Assignable.parseAssignment_eq {name : String} (h : Assignable name) (value : String) :
    parseAssignment (name ++ "=" ++ value) = .ok (name, value) := by
  refine parseAssignment_eq_ok_iff.2 ⟨h.nonempty, name.toList, ?_, h.undivided, h.trimmed⟩
  rw [String.toList_append, String.toList_append, List.append_assoc]
  rfl

/-- All names that are assigned are assignable. -/
theorem assignable_of_parseAssignment {arg name value : String}
    (h : parseAssignment arg = .ok (name, value)) : Assignable name := by
  obtain ⟨hne, front, -, hfront, hname⟩ := parseAssignment_eq_ok_iff.1 h
  refine ⟨hne, ?_, ?_⟩
  · rw [← hname]
    exact fun hmem => hfront (Text.mem_of_mem_trimChars hmem)
  · rw [← hname, Text.trimChars_trimChars]

namespace CommandLine

/-! ## Command lines made of assignments -/

/-- The word that assigns a value to a variable. -/
def assignmentWord (binding : String × String) : String :=
  "--var=" ++ (binding.1 ++ "=" ++ binding.2)

/-- The level of the render command. -/
def renderShape : Shape :=
  commandShape true [("var", .var), ("mode", .mode)]

theorem toList_assignmentWord (binding : String × String) :
    (assignmentWord binding).toList =
      '-' :: '-' :: 'v' :: 'a' :: 'r' :: '=' :: (binding.1 ++ "=" ++ binding.2).toList := by
  rw [assignmentWord, String.toList_append]
  rfl

/-- The word is an option with its assignment attached, wherever the assignment is divided. -/
theorem ofString_assignmentWord (binding : String × String) :
    Word.ofString (assignmentWord binding) = .long "var" (some (binding.1 ++ "=" ++ binding.2)) := by
  rw [Word.ofString, toList_assignmentWord]
  simp [String.append_assoc]

/-- An assignment is taken in as the value of its option. -/
theorem Given.store_assignment (g : Given) {binding : String × String} (h : Assignable binding.1) :
    g.store .var (binding.1 ++ "=" ++ binding.2) = .ok { g with vars := g.vars ++ [binding] } := by
  rw [store, h.parseAssignment_eq]

/-- An assignment adds its binding to those that were given. -/
theorem readWords_assignmentWord {g : Given} (hpending : g.pending = none) {binding : String × String}
    (h : Assignable binding.1) (rest : List String) :
    readWords renderShape g (assignmentWord binding :: rest) =
      readWords renderShape { g with vars := g.vars ++ [binding] } rest := by
  have hdashes : assignmentWord binding ≠ "--" := by
    intro heq
    have hchars := toList_assignmentWord binding
    rw [heq] at hchars
    exact absurd hchars (by simp)
  obtain ⟨config, level, name, vars, mode, pending⟩ := g
  obtain rfl : pending = none := hpending
  rw [readWords, if_neg (by simp [renderShape, commandShape]), if_neg hdashes, ofString_assignmentWord]
  have hoption : renderShape.options.lookup "var" = some .var := by decide
  simp only [hoption, Given.settle, Given.store_assignment _ h]
  rfl

/-- Assignments give their bindings in their order. -/
theorem readWords_map_assignmentWord {g : Given} (hpending : g.pending = none)
    {bindings : List (String × String)} (h : ∀ binding ∈ bindings, Assignable binding.1)
    (rest : List String) :
    readWords renderShape g (bindings.map assignmentWord ++ rest) =
      readWords renderShape { g with vars := g.vars ++ bindings } rest := by
  induction bindings generalizing g with
  | nil => rw [List.map_nil, List.nil_append, List.append_nil]
  | cons binding others ih =>
    obtain ⟨hbinding, hothers⟩ := List.forall_mem_cons.1 h
    have hrest := ih (g := { g with vars := g.vars ++ [binding] }) hpending hothers
    rw [List.map_cons, List.cons_append, readWords_assignmentWord hpending hbinding, hrest,
      List.append_assoc, List.singleton_append]

/-- A command line of assignments asks for a render with the bindings that they give. -/
theorem read_render_assignments {bindings : List (String × String)}
    (h : ∀ binding ∈ bindings, Assignable binding.1) (name : String) :
    read ("render" :: (bindings.map assignmentWord ++ ["--", name])) =
      .ok ⟨defaultConfigPath, none, .render name bindings none⟩ := by
  have hwords : readWords renderShape .none (bindings.map assignmentWord ++ ["--", name]) =
      .ok ({ Given.none with name := some name, vars := bindings }, none) := by
    rw [readWords_map_assignmentWord rfl h, readWords]
    rfl
  have hcommand : readCommand "render" (bindings.map assignmentWord ++ ["--", name]) =
      .ok (.render name bindings none) := by
    show (readWords renderShape .none _ >>= _) = _
    rw [hwords]
    rfl
  show (readCommand "render" _ >>= _) = _
  rw [hcommand]
  rfl

/-! ## What any command line can set -/

/-- All variables that were given have assignable names. -/
def Given.Assigns (g : Given) : Prop :=
  ∀ binding ∈ g.vars, Assignable binding.1

namespace Given

variable {g next : Given}

/-- The option that was met last has no part in it. -/
theorem Assigns.pending (h : g.Assigns) (pending : Option (OptionName × Option String)) :
    { g with pending }.Assigns := h

/-- Taking in a value keeps the names assignable. -/
theorem Assigns.store (h : g.Assigns) {option : OptionName} {word : String}
    (hstore : g.store option word = .ok next) : next.Assigns := by
  unfold Given.store at hstore
  split at hstore
  · split at hstore
    · cases hstore
    · cases hstore
      exact h
  · split at hstore
    · cases hstore
    · split at hstore
      · cases hstore
        exact h
      · cases hstore
  · split at hstore
    · next binding hparse =>
      cases hstore
      exact List.forall_mem_append.2 ⟨h, List.forall_mem_singleton.2 (assignable_of_parseAssignment hparse)⟩
    · cases hstore
  · split at hstore
    · cases hstore
    · split at hstore
      · cases hstore
        exact h
      · cases hstore

/-- Taking in the value of the last option keeps the names assignable. -/
theorem Assigns.settle (h : g.Assigns) (hsettle : g.settle = .ok next) : next.Assigns := by
  unfold Given.settle at hsettle
  split at hsettle
  · cases hsettle
    exact h
  · cases hsettle
  · exact (h.pending _).store hsettle

end Given

namespace Given.Assigns

variable {shape : Shape} {g next : Given} {words : List String}

/-- Taking in a name keeps the names of variables assignable. -/
theorem takeName {afterDashes : Bool} {word : String} (h : g.Assigns)
    (htake : CommandLine.takeName shape afterDashes g word = .ok next) : next.Assigns := by
  unfold CommandLine.takeName at htake
  split at htake
  · obtain ⟨settled, hsettle, hname⟩ := bind_eq_ok_iff.1 htake
    cases hname
    have hsettled : settled.Assigns := h.settle hsettle
    exact hsettled
  · cases htake

/-- So does taking in one name after the other. -/
theorem foldlM_takeName (h : g.Assigns)
    (htake : words.foldlM (CommandLine.takeName shape true) g = .ok next) : next.Assigns := by
  induction words generalizing g with
  | nil =>
    cases htake
    exact h
  | cons word rest ih =>
    rw [List.foldlM_cons] at htake
    obtain ⟨named, hfirst, hrest⟩ := bind_eq_ok_iff.1 htake
    exact ih (h.takeName hfirst) hrest

/-- Whatever words are read, only assignable names are given to variables. -/
theorem readWords {command : Option (String × List String)} (h : g.Assigns)
    (hread : CommandLine.readWords shape g words = .ok (next, command)) : next.Assigns := by
  induction words generalizing g with
  | nil =>
    cases hread
    exact h
  | cons word rest ih =>
    rw [CommandLine.readWords] at hread
    split at hread
    · cases hread
      exact h
    · split at hread
      · obtain ⟨named, hnames, heq⟩ := bind_eq_ok_iff.1 hread
        cases heq
        exact h.foldlM_takeName hnames
      · split at hread
        · -- An option: the one before it is settled, and it may have its value attached.
          split at hread
          · obtain ⟨settled, hsettle, hrest⟩ := bind_eq_ok_iff.1 hread
            obtain ⟨stored, hstore, hrest⟩ := bind_eq_ok_iff.1 hrest
            exact ih (((h.settle hsettle).pending _).store hstore) hrest
          · obtain ⟨settled, hsettle, hrest⟩ := bind_eq_ok_iff.1 hread
            exact ih ((h.settle hsettle).pending _) hrest
          · cases hread
          · obtain ⟨_, -, hrest⟩ := bind_eq_ok_iff.1 hread
            cases hrest
          · cases hread
        · -- Letters of flags end the reading.
          split at hread
          · obtain ⟨_, -, hrest⟩ := bind_eq_ok_iff.1 hread
            cases hrest
          · cases hread
        · -- A plain word is the value of the option before it, or a name.
          split at hread
          · exact ih (h.pending _) hread
          · obtain ⟨named, hname, hrest⟩ := bind_eq_ok_iff.1 hread
            exact ih (h.takeName hname) hrest

end Given.Assigns

/-- The variables that a command line sets have assignable names. -/
theorem assignable_of_read {words : List String} {args : Arguments} {name : String}
    {bindings : List (String × String)} {mode : Option RenderMode} (hread : read words = .ok args)
    (hcommand : args.command = .render name bindings mode) :
    ∀ binding ∈ bindings, Assignable binding.1 := by
  obtain ⟨⟨outer, _ | ⟨word, rest⟩⟩, -, hrest⟩ := bind_eq_ok_iff.1 hread
  · obtain ⟨_, -, hrest⟩ := bind_eq_ok_iff.1 hrest
    cases hrest
  · obtain ⟨command, hinner, hrest⟩ := bind_eq_ok_iff.1 hrest
    obtain ⟨_, -, hrest⟩ := bind_eq_ok_iff.1 hrest
    cases hrest
    obtain rfl : command = .render name bindings mode := hcommand
    unfold readCommand at hinner
    split at hinner
    · obtain ⟨_, -, hrest⟩ := bind_eq_ok_iff.1 hinner
      obtain ⟨_, -, hrest⟩ := bind_eq_ok_iff.1 hrest
      cases hrest
    · obtain ⟨_, -, hrest⟩ := bind_eq_ok_iff.1 hinner
      obtain ⟨_, -, hrest⟩ := bind_eq_ok_iff.1 hrest
      split at hrest <;> cases hrest
    · obtain ⟨⟨given, _⟩, hwords, hrest⟩ := bind_eq_ok_iff.1 hinner
      obtain ⟨settled, hsettle, hrest⟩ := bind_eq_ok_iff.1 hrest
      have hnone : Given.none.Assigns := fun _ hmem => absurd hmem List.not_mem_nil
      have hsettled : settled.Assigns := (hnone.readWords hwords).settle hsettle
      split at hrest
      · cases hrest
        exact hsettled
      · cases hrest
    · cases hinner
    · cases hinner
    · cases hinner

end CommandLine

/-! ## The variables of a manifest -/

/-- Of the variables that targets mention, the command line can set those that it can divide from their
value and that do not begin with a blank.

Let `v` be the variable of a written target. An assignment with `v` in front of an equals sign and a value
gives `v` this value exactly if `v` is assignable, that is, if there is no equals sign in it and no blank in
front. Otherwise no command line gives it a value at all. If `v` is assignable, a command line may set it
among others, and it has the last value that was given to it: the target stands for this value in the render,
and where it is the only one of its edge the render goes there if the manifest has the template. -/
theorem variable_settable_iff {raw v : String} (hraw : TargetRef.parse? raw = some (.var v)) :
    (Assignable v ↔ '=' ∉ v.toList ∧ ∀ c ∈ v.toList.head?, Text.isBlank c = false) ∧
    (∀ value, parseAssignment (v ++ "=" ++ value) = .ok (v, value) ↔ Assignable v) ∧
    (¬ Assignable v → ∀ words config level name bindings mode,
      CommandLine.read words = .ok ⟨config, level, .render name bindings mode⟩ →
      (NameMap.ofList bindings).get? v = none) ∧
    (Assignable v → ∀ before value after, (∀ binding ∈ before ++ after, Assignable binding.1) →
      (∀ binding ∈ after, binding.1 ≠ v) →
      let bindings := before ++ (v, value) :: after
      (∀ name, CommandLine.read
          ("render" :: (bindings.map CommandLine.assignmentWord ++ ["--", name])) =
        .ok ⟨defaultConfigPath, none, .render name bindings none⟩) ∧
      (TargetRef.var v).evaluate (.ofList bindings) = .ok value ∧
      ∀ (m : Manifest) (spec : EdgeSpec), spec.written = [raw] → m.contains value = true →
        m.select (.ofList bindings) spec.optional spec.candidates = .ok (some value)) := by
  obtain ⟨hne, hback⟩ := TargetRef.parse?_eq_var hraw
  have hassignable : Assignable v ↔ '=' ∉ v.toList ∧ ∀ c ∈ v.toList.head?, Text.isBlank c = false := by
    constructor
    · exact fun h => ⟨h.undivided, (Text.trimChars_eq_self_iff.1 h.trimmed).1⟩
    · rintro ⟨hundivided, hfront⟩
      exact ⟨hne, hundivided, Text.trimChars_eq_self_iff.2 ⟨hfront, hback⟩⟩
  refine ⟨hassignable, fun value => ?_, fun hnot words config level name bindings mode hread => ?_,
    fun h before value after hothers hafter => ?_⟩
  · exact ⟨assignable_of_parseAssignment, fun h => h.parseAssignment_eq value⟩
  · have hall := CommandLine.assignable_of_read hread rfl
    rw [NameMap.get?_ofList, Option.map_eq_none_iff, List.getLast?_eq_none_iff, List.filter_eq_nil_iff]
    rintro binding hbinding hname
    exact hnot (of_decide_eq_true hname ▸ hall binding hbinding)
  · intro bindings
    have hbindings : ∀ binding ∈ bindings, Assignable binding.1 := by
      obtain ⟨hbefore, hafter⟩ := List.forall_mem_append.1 hothers
      exact List.forall_mem_append.2 ⟨hbefore, List.forall_mem_cons.2 ⟨h, hafter⟩⟩
    have hvalue : (TargetRef.var v).evaluate (.ofList bindings) = .ok value := by
      rw [TargetRef.evaluate, NameMap.get?_ofList_of_last before v value hafter]
    refine ⟨CommandLine.read_render_assignments hbindings, hvalue, fun m spec hwritten hcontains => ?_⟩
    rw [EdgeSpec.candidates_of_written hwritten hraw]
    exact m.select_singleton hvalue hcontains spec.optional

/-- A variable with a blank in it takes a value with an equals sign in it, and the later of two values. -/
theorem side_bar_set :
    TargetRef.parse? " $side bar " = some (.var "side bar") ∧
    parseAssignment "side bar=dark=mode" = .ok ("side bar", "dark=mode") ∧
    CommandLine.read
        ["render", "--var=side bar=nav", "--var=side bar=dark=mode", "--var=top=", "--", "page"] =
      .ok ⟨"Tplwatch.toml", none,
        .render "page" [("side bar", "nav"), ("side bar", "dark=mode"), ("top", "")] none⟩ ∧
    (TargetRef.var "side bar").evaluate
      (.ofList [("side bar", "nav"), ("side bar", "dark=mode"), ("top", "")]) = .ok "dark=mode" := by
  have hraw : TargetRef.parse? " $side bar " = some (.var "side bar") := by decide +kernel
  have hside : Assignable "side bar" := ⟨by decide, by decide, by decide⟩
  have htop : Assignable "top" := ⟨by decide, by decide, by decide⟩
  obtain ⟨-, hassign, -, hset⟩ := variable_settable_iff hraw
  obtain ⟨hread, hvalue, -⟩ := hset hside [("side bar", "nav")] "dark=mode" [("top", "")]
    (by simp [hside, htop]) (by simp)
  exact ⟨hraw, (hassign "dark=mode").2 hside, hread "page", hvalue⟩

/-- A manifest may mention variables that no assignment sets. An equals sign in a variable divides the
assignment too early, and a blank in front of it is trimmed away; the value goes to another variable, and a
render finds none. -/
theorem divided_variable_missed :
    (TargetRef.parse? "$a=b" = some (.var "a=b") ∧
      parseAssignment "a=b=nav" = .ok ("a", "b=nav") ∧
      (TargetRef.var "a=b").evaluate (.ofList [("a", "b=nav")]) = .error (.unboundVariable "a=b")) ∧
    (TargetRef.parse? "$ side" = some (.var " side") ∧
      parseAssignment " side=nav" = .ok ("side", "nav") ∧
      (TargetRef.var " side").evaluate (.ofList [("side", "nav")]) = .error (.unboundVariable " side")) ∧
    ¬ ∀ raw v value, TargetRef.parse? raw = some (.var v) →
      parseAssignment (v ++ "=" ++ value) = .ok (v, value) := by
  have hraw : TargetRef.parse? "$a=b" = some (.var "a=b") := by decide +kernel
  have hdivided : parseAssignment "a=b=nav" = .ok ("a", "b=nav") := by decide +kernel
  refine ⟨⟨hraw, hdivided, by decide +kernel⟩, by decide +kernel, fun hall => ?_⟩
  have hset : parseAssignment "a=b=nav" = .ok ("a=b", "nav") := hall "$a=b" "a=b" "nav" hraw
  rw [hdivided] at hset
  exact absurd hset (by decide)

end TemplateDeps

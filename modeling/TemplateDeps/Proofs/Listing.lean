import TemplateDeps.Graph.Operation
import TemplateDeps.Proofs.Text.Quoting
import TemplateDeps.Report

/-!
# Listings tell graphs apart

The listing of a graph can be read back. `Graph.listing_eq_iff` says that two graphs have the same listing
exactly if it shows the same of both: the templates in their order, each with its file as it is shown, and the
kind and the targets of each of its edges. Names of targets may have any characters in them, since they are
quoted. Names and files of templates are not, so they must not go over several lines. What is shown of a file
is its path if that is a text, and then the listing tells the file as well. Of other files it does not
(`Graph.listing_unreadable_eq`).

The text is taken apart in three steps.

* It consists of lines, and none of them has a line break in it (`unlines_inj`).
* A line tells what it is about. `ListingLine` is what can stand in a line, and `ListingLine.text_injective`
  says that a line shows one thing only. Of the targets of an edge each says where it ends
  (`prefixFree_display`).
* A template is shown by its name and by the details that follow, up to the next name. `ListingLine.read` puts
  them together again, beginning with the last line.
-/

namespace TemplateDeps

open Text

/-! ## Lines -/

/-- A text of lines, character by character: the lines with line breaks between them, and nothing behind the
last line break. -/
theorem toList_unlines (lines : List String) :
    (unlines lines).toList = ['\n'].intercalate (lines.map String.toList ++ [[]]) := by
  induction lines with
  | nil => rfl
  | cons line rest ih =>
    have hcons : unlines (line :: rest) = line ++ "\n" ++ unlines rest := by
      simp [unlines]
    rw [hcons, String.toList_append, String.toList_append, ih, List.map_cons, List.cons_append,
      List.intercalate_cons_of_ne_nil (List.append_ne_nil_of_right_ne_nil _ (List.cons_ne_nil _ _))]
    rfl

/-- Lines without line breaks in them are known from their text. -/
theorem unlines_inj {lines lines' : List String} (h : ∀ line ∈ lines, '\n' ∉ line.toList)
    (h' : ∀ line ∈ lines', '\n' ∉ line.toList) (heq : unlines lines = unlines lines') : lines = lines' := by
  have hsplit : ∀ {ls : List String}, (∀ line ∈ ls, '\n' ∉ line.toList) →
      (unlines ls).toList.splitOn '\n' = ls.map String.toList ++ [[]] := by
    intro ls hls
    have hfree : ∀ cs ∈ ls.map String.toList ++ [[]], '\n' ∉ cs :=
      List.forall_mem_append.2 ⟨List.forall_mem_map.2 hls, List.forall_mem_singleton.2 List.not_mem_nil⟩
    rw [toList_unlines, List.splitOn_intercalate _ hfree (by simp)]
  have hchars : lines.map String.toList ++ [[]] = lines'.map String.toList ++ [[]] := by
    rw [← hsplit h, heq, hsplit h']
  exact List.map_injective_iff.2 (fun _ _ => String.toList_inj.1) (List.append_cancel_right hchars)

/-! ## Targets -/

/-- A target is known from the text that it begins. -/
theorem prefixFree_display : PrefixFree fun t : Target => t.display.toList := by
  intro s t u v h
  cases s with
  | named m =>
    cases t with
    | named n =>
      obtain ⟨rfl, hfollow⟩ := prefixFree_quote h
      exact ⟨rfl, hfollow⟩
    | dynamic => simp [Target.display] at h
  | dynamic =>
    cases t with
    | named n => simp [Target.display] at h
    | dynamic => exact ⟨rfl, List.append_cancel_left h⟩

/-- Targets behind the first one are shown behind a bar. -/
theorem toList_intercalate_display (t : Target) (ts : List Target) :
    (" | ".intercalate ((t :: ts).map Target.display)).toList =
      t.display.toList ++ ts.flatMap fun s => " | ".toList ++ s.display.toList := by
  rw [String.toList_intercalate]
  induction ts generalizing t with
  | nil => simp
  | cons s ts ih =>
    rw [List.map_cons, List.map_cons, List.map_cons, List.map_cons, List.intercalate_cons_cons, ← List.map_cons,
      ← List.map_cons, ih]
    simp

/-- Targets have no line break in them. -/
theorem newline_not_mem_display (t : Target) : '\n' ∉ t.display.toList := by
  cases t with
  | named name => exact newline_not_mem_quote name
  | dynamic => decide

theorem newline_not_mem_intercalate_display (ts : List Target) :
    '\n' ∉ (" | ".intercalate (ts.map Target.display)).toList := by
  cases ts with
  | nil => simp
  | cons t ts =>
    rw [toList_intercalate_display]
    simp [newline_not_mem_display]

/-- A list of targets is known from its text. -/
theorem intercalate_display_injective :
    Function.Injective fun ts : List Target => " | ".intercalate (ts.map Target.display) := by
  intro ss ts h
  have hne : ∀ t : Target, t.display.toList ≠ [] := by
    intro t
    cases t <;> simp [Target.display]
  have hchars := congrArg String.toList h
  cases ss with
  | nil =>
    cases ts with
    | nil => rfl
    | cons t ts =>
      simp only [toList_intercalate_display] at hchars
      exact absurd (List.append_eq_nil_iff.1 hchars.symm).1 (hne t)
  | cons s ss =>
    simp only [toList_intercalate_display] at hchars
    cases ts with
    | nil => exact absurd (List.append_eq_nil_iff.1 hchars).1 (hne s)
    | cons t ts =>
      simp only [toList_intercalate_display] at hchars
      obtain ⟨rfl, hrest⟩ := prefixFree_display hchars
      have hnil : ∀ (t : Target) (w : List Char), (" | ".toList ++ t.display.toList) ++ w ≠ [] := by simp
      obtain ⟨rfl, -⟩ := (prefixFree_display.append_left " | ".toList).flatMap_append_inj hnil hnil
        (congrArg (· ++ []) hrest)
      rfl

/-- The word for a kind is known from a text that begins with it and a blank. -/
theorem prefixFree_word : PrefixFree fun k : Kind => k.word.toList ++ [' '] := by
  intro j k u v h
  cases j <;> cases k <;> simp_all [Kind.word]

/-! ## What a line shows -/

/-- What a line of a listing shows, the first one apart. -/
inductive ListingLine
  /-- The name of a template. -/
  | template (name : String)
  /-- The file of the template named last. -/
  | file (path : String)
  /-- An edge of the template named last. -/
  | edge (id : EdgeId) (kind : Kind) (targets : List Target)

namespace ListingLine

/-- The line itself. -/
def text : ListingLine → String
  | template name => "  - " ++ name
  | file path => "      file: " ++ path
  | edge id kind targets =>
    "      #" ++ toString id ++ " " ++ (kind.word ++ " " ++ " | ".intercalate (targets.map Target.display))

/-- An edge is shown by its position, its kind and its targets, with blanks in between. -/
theorem toList_text_edge (id : EdgeId) (kind : Kind) (targets : List Target) :
    (edge id kind targets).text.toList = "      #".toList ++ (Nat.toDigits 10 id ++ ' ' ::
      (kind.word.toList ++ [' '] ++ (" | ".intercalate (targets.map Target.display)).toList)) := by
  simp [text]

/-- A line shows one thing only. -/
theorem text_injective : Function.Injective text := by
  intro l l' h
  have hchars := congrArg String.toList h
  cases l with
  | template name =>
    cases l' with
    | template name' => rw [(String.append_right_inj _).1 h]
    | file path => simp [text] at hchars
    | edge id kind targets => simp [text] at hchars
  | file path =>
    cases l' with
    | template name => simp [text] at hchars
    | file path' => rw [(String.append_right_inj _).1 h]
    | edge id kind targets => simp [text] at hchars
  | edge id kind targets =>
    cases l' with
    | template name => simp [text] at hchars
    | file path => simp [text] at hchars
    | edge id' kind' targets' =>
      rw [toList_text_edge, toList_text_edge] at hchars
      obtain ⟨rfl, hrest⟩ := toDigits_append_inj (by decide) (by decide) (by decide)
        (List.append_cancel_left hchars)
      obtain ⟨rfl, hshown⟩ := prefixFree_word hrest
      rw [intercalate_display_injective (String.toList_inj.1 hshown)]

end ListingLine

/-! ## What is shown of a template -/

/-- What a listing is about, of one template. The file is its path, or what is shown of that. -/
structure Listed (File : Type) where
  name : String
  file : Option File
  /-- The edges in their order, each with its kind and its targets. -/
  edges : List (Kind × List Target)
  deriving DecidableEq, Repr

/-- What a listing is about, of the template. -/
def Template.listed (t : Template) : Listed FilePath :=
  ⟨t.name, t.file, t.edges.map fun e => (e.declaration.kind, e.declaration.targets)⟩

/-- What is shown of it. -/
def Listed.shown (l : Listed FilePath) : Listed String :=
  ⟨l.name, l.file, l.edges⟩

/-- What is shown, with the path that a file is read as. -/
def Listed.reread (l : Listed String) : Listed FilePath :=
  ⟨l.name, l.file, l.edges⟩

/-- The file of the template is a text, if there is one. -/
def Template.FileIsText (t : Template) : Prop :=
  ∀ path ∈ t.file, path.IsText

instance (t : Template) : Decidable t.FileIsText :=
  inferInstanceAs (Decidable (∀ path ∈ t.file, _))

/-- All that a listing is about can be read off what it shows, if the file is a text. -/
theorem Template.reread_shown_listed {t : Template} (h : t.FileIsText) : t.listed.shown.reread = t.listed := by
  rcases t with ⟨name, _ | path, edges, reloaded⟩
  · rfl
  · have hpath := FilePath.isText_iff.1 (h path rfl)
    simp [listed, Listed.shown, Listed.reread, hpath]

/-- Name and file of the template do not go over several lines. -/
def Template.SingleLined (t : Template) : Prop :=
  '\n' ∉ t.name.toList ∧ ∀ path ∈ t.file, 0x0a ∉ path.bytes

instance (t : Template) : Decidable t.SingleLined :=
  inferInstanceAs (Decidable (_ ∧ _))

namespace ListingLine

/-- The lines behind the name of a template. -/
def details (t : Listed String) : List ListingLine :=
  t.file.toList.map file ++ t.edges.zipIdx.map fun (e, id) => edge id e.1 e.2

/-- The lines of a template. -/
def ofShown (t : Listed String) : List ListingLine :=
  template t.name :: details t

/-- The lines of a template show what the template shows. -/
theorem map_text_ofShown (t : Template) : (ofShown t.listed.shown).map text = t.listingLines := by
  have hshown : t.listed.shown.edges.zipIdx =
      t.edges.zipIdx.map (Prod.map (fun e => (e.declaration.kind, e.declaration.targets)) id) :=
    List.zipIdx_map ..
  have hedges : (t.listed.shown.edges.zipIdx.map fun (e, id) => edge id e.1 e.2).map text =
      t.edges.zipIdx.map fun e => s!"      #{e.2} {e.1.declaration.display}" := by
    rw [hshown, List.map_map, List.map_map]
    rfl
  rw [ofShown, details, List.map_cons, List.map_append, hedges, List.map_map]
  rfl

/-- The file, in a line that shows one. -/
def file? : ListingLine → Option String
  | file path => some path
  | _ => none

/-- The edge, in a line that shows one. -/
def edge? : ListingLine → Option (Kind × List Target)
  | edge _ kind targets => some (kind, targets)
  | _ => none

/-- Put a line in front of what was read of the lines behind it: details of a template that is still to come,
and the templates behind those. -/
def read : ListingLine → List ListingLine × List (Listed String) → List ListingLine × List (Listed String)
  | template name, (details, shown) => ([], ⟨name, details.findSome? file?, details.filterMap edge?⟩ :: shown)
  | detail, (details, shown) => (detail :: details, shown)

/-- Details are kept for the template that they belong to. -/
theorem foldr_read_details (t : Listed String) (shown : List (Listed String)) :
    (details t).foldr read ([], shown) = (details t, shown) := by
  have hedges : ∀ es : List ((Kind × List Target) × Nat),
      (es.map fun (e, id) => edge id e.1 e.2).foldr read ([], shown) =
        (es.map fun (e, id) => edge id e.1 e.2, shown) := by
    intro es
    induction es with
    | nil => rfl
    | cons e es ih =>
      rw [List.map_cons, List.foldr_cons, ih]
      rfl
  rw [details, List.foldr_append, hedges]
  cases t.file <;> rfl

/-- The file of a template is found among its details. -/
theorem findSome?_file?_details (t : Listed String) : (details t).findSome? file? = t.file := by
  have hedges : (t.edges.zipIdx.map fun (e, id) => edge id e.1 e.2).findSome? file? = none := by
    rw [List.findSome?_eq_none_iff]
    intro line hline
    obtain ⟨e, -, rfl⟩ := List.mem_map.1 hline
    rfl
  rw [details, List.findSome?_append, hedges, Option.or_none]
  cases t.file <;> rfl

/-- So are its edges. -/
theorem filterMap_edge?_details (t : Listed String) : (details t).filterMap edge? = t.edges := by
  have hfile : (t.file.toList.map file).filterMap edge? = [] := by
    simp [List.filterMap_eq_nil_iff, edge?]
  have hedges : (t.edges.zipIdx.map fun (e, id) => edge id e.1 e.2).filterMap edge? =
      t.edges.zipIdx.map Prod.fst := by
    rw [List.filterMap_map, ← List.filterMap_eq_map]
    rfl
  rw [details, List.filterMap_append, hfile, hedges, List.nil_append, List.zipIdx_map_fst]

/-- Reading the lines of templates, beginning with the last one, gives the templates back. -/
theorem foldr_read_flatMap_ofShown (shown : List (Listed String)) :
    (shown.flatMap ofShown).foldr read ([], []) = ([], shown) := by
  induction shown with
  | nil => rfl
  | cons t rest ih =>
    rw [List.flatMap_cons, List.foldr_append, ih, ofShown, List.foldr_cons, foldr_read_details, read,
      findSome?_file?_details, filterMap_edge?_details]

/-- The lines of a template have no line breaks in them, if its name and its file have none. -/
theorem newline_not_mem_text {t : Template} (h : t.SingleLined) {line : ListingLine}
    (hline : line ∈ ofShown t.listed.shown) : '\n' ∉ line.text.toList := by
  rcases List.mem_cons.1 hline with rfl | hline
  · have hname : '\n' ∉ t.listed.shown.name.toList := h.1
    simpa [text] using hname
  · rcases List.mem_append.1 hline with hline | hline
    · obtain ⟨shown, hshown, rfl⟩ := List.mem_map.1 hline
      have hdisplay : t.file.map FilePath.display = some shown := Option.mem_toList.1 hshown
      obtain ⟨path, hpath, rfl⟩ := Option.map_eq_some_iff.1 hdisplay
      have hfile : '\n' ∉ path.display.toList := fun hmem =>
        h.2 path hpath (FilePath.newline_mem_of_mem_display hmem)
      simpa [text] using hfile
    · obtain ⟨⟨⟨kind, targets⟩, id⟩, -, rfl⟩ := List.mem_map.1 hline
      have hnumber : '\n' ∉ Nat.toDigits 10 id := not_mem_toDigits (by decide) (by decide) (by decide) id
      have hword : '\n' ∉ kind.word.toList := by cases kind <;> decide
      have htargets := newline_not_mem_intercalate_display targets
      rw [toList_text_edge]
      simp only [List.mem_append, List.mem_cons, not_or]
      exact ⟨by decide, hnumber, by decide, ⟨hword, by decide⟩, htargets⟩

end ListingLine

namespace Graph

variable {g h : Graph}

/-- The lines of a listing. -/
def listingLines (g : Graph) : List String :=
  s!"templates ({g.size}):" :: g.templates.flatMap Template.listingLines

/-- No line of a listing has a line break in it, if no name and no file of a template has one. -/
theorem newline_not_mem_listingLines (hg : ∀ t ∈ g.templates, t.SingleLined) :
    ∀ line ∈ g.listingLines, '\n' ∉ line.toList := by
  refine List.forall_mem_cons.2 ⟨?_, fun line hline => ?_⟩
  · have hnumber : '\n' ∉ Nat.toDigits 10 g.size := not_mem_toDigits (by decide) (by decide) (by decide) _
    show '\n' ∉ ("templates (" ++ toString g.size ++ "):").toList
    simpa using hnumber
  · obtain ⟨t, ht, hline⟩ := List.mem_flatMap.1 hline
    rw [← ListingLine.map_text_ofShown] at hline
    obtain ⟨shown, hshown, rfl⟩ := List.mem_map.1 hline
    exact ListingLine.newline_not_mem_text (hg t ht) hshown

/-- Behind its first line a listing shows one template after the other. -/
theorem map_text_flatMap_ofShown (g : Graph) :
    ((g.templates.map (·.listed.shown)).flatMap ListingLine.ofShown).map ListingLine.text =
      g.templates.flatMap Template.listingLines := by
  rw [List.flatMap_map, List.map_flatMap]
  simp only [ListingLine.map_text_ofShown]

/-- A listing shows just this: of each template the name, the file as it is shown, and the edges. -/
theorem listing_eq_iff_shown (hg : ∀ t ∈ g.templates, t.SingleLined) (hh : ∀ t ∈ h.templates, t.SingleLined) :
    g.listing = h.listing ↔ g.templates.map (·.listed.shown) = h.templates.map (·.listed.shown) := by
  constructor
  · intro heq
    have hlines : g.listingLines = h.listingLines :=
      unlines_inj (newline_not_mem_listingLines hg) (newline_not_mem_listingLines hh) heq
    have htexts := (List.cons.inj hlines).2
    rw [← map_text_flatMap_ofShown, ← map_text_flatMap_ofShown] at htexts
    have hshown := List.map_injective_iff.2 ListingLine.text_injective htexts
    have hread := congrArg (List.foldr ListingLine.read ([], [])) hshown
    rw [ListingLine.foldr_read_flatMap_ofShown, ListingLine.foldr_read_flatMap_ofShown] at hread
    exact congrArg Prod.snd hread
  · intro heq
    have hsize : g.size = h.size := by simpa [size] using congrArg List.length heq
    have hlines : g.listingLines = h.listingLines := by
      rw [listingLines, listingLines, hsize, ← map_text_flatMap_ofShown, ← map_text_flatMap_ofShown, heq]
    exact congrArg unlines hlines

/-- What a listing is about can be read off what it shows, if all files are texts. -/
theorem map_reread_shown (hg : ∀ t ∈ g.templates, t.FileIsText) :
    (g.templates.map (·.listed.shown)).map Listed.reread = g.templates.map Template.listed := by
  rw [List.map_map]
  exact List.map_congr_left fun t ht => Template.reread_shown_listed (hg t ht)

/-- A listing determines what is declared. Let no name and no file of a template in two graphs have a line
break in it. The graphs have the same listing exactly if they have the same templates in the same order, each
with a file that is shown alike or with none in both, and with as many edges, of which those in the same
position have the same kind and the same list of targets: the same name where a target is literal, and a
dynamic target in the same places. Nothing is asked of the names of targets, which may look like any other part
of a listing.

If the files are texts besides, then each template has the same file in both graphs. -/
theorem listing_eq_iff (hg : ∀ t ∈ g.templates, t.SingleLined) (hh : ∀ t ∈ h.templates, t.SingleLined) :
    (g.listing = h.listing ↔ g.templates.map (·.listed.shown) = h.templates.map (·.listed.shown)) ∧
    ((∀ t ∈ g.templates, t.FileIsText) → (∀ t ∈ h.templates, t.FileIsText) →
      (g.listing = h.listing ↔ g.templates.map Template.listed = h.templates.map Template.listed)) := by
  refine ⟨listing_eq_iff_shown hg hh, fun hgtext hhtext => ?_⟩
  rw [listing_eq_iff_shown hg hh]
  constructor
  · intro heq
    rw [← map_reread_shown hgtext, ← map_reread_shown hhtext, heq]
  · intro heq
    have hshown := congrArg (List.map Listed.shown) heq
    rwa [List.map_map, List.map_map] at hshown

/-- A target with a name that looks like two targets, and like a dynamic one behind them, is listed
differently from these three. -/
theorem listing_forged_ne :
    let forged : Declaration := .including (.named "side\" | \"foot\" | <dynamic>") [] (some true) none
    let plain : Declaration := .including (.named "side") [.named "foot", .dynamic] none none
    let g := empty.applyAll [.declareTemplate "page" (some ""), .declare "page" forged]
    let h := empty.applyAll [.declareTemplate "page" (some ""), .declare "page" plain, .record "page" 0 "foot"]
    ((∀ t ∈ g.templates, t.SingleLined) ∧ ∀ t ∈ h.templates, t.SingleLined) ∧
      ((∀ t ∈ g.templates, t.FileIsText) ∧ ∀ t ∈ h.templates, t.FileIsText) ∧ g.listing ≠ h.listing := by
  intro forged plain g h
  have hg : ∀ t ∈ g.templates, t.SingleLined := by decide +kernel
  have hh : ∀ t ∈ h.templates, t.SingleLined := by decide +kernel
  have hgtext : ∀ t ∈ g.templates, t.FileIsText := by decide +kernel
  have hhtext : ∀ t ∈ h.templates, t.FileIsText := by decide +kernel
  have hlisted := (listing_eq_iff hg hh).2 hgtext hhtext
  exact ⟨⟨hg, hh⟩, ⟨hgtext, hhtext⟩, mt hlisted.1 (by decide +kernel)⟩

/-- Two files from which no character can be read, and one with the name of the replacement character, are
shown alike. The listing of a template does not tell which of them it has. -/
theorem listing_unreadable_eq :
    let g := empty.applyAll [.declareTemplate "a" (some ⟨[0xff]⟩)]
    let h := empty.applyAll [.declareTemplate "a" (some ⟨[0xfe]⟩)]
    let k := empty.applyAll [.declareTemplate "a" (some "\uFFFD")]
    ((∀ t ∈ g.templates, t.SingleLined) ∧ (∀ t ∈ h.templates, t.SingleLined) ∧
      ∀ t ∈ k.templates, t.SingleLined) ∧
    (g.listing = h.listing ∧ h.listing = k.listing ∧ k.listing = "templates (1):\n  - a\n      file: \uFFFD\n") ∧
    g.templates.map Template.listed ≠ h.templates.map Template.listed ∧
    g.templates.map Template.listed ≠ k.templates.map Template.listed ∧
    h.templates.map Template.listed ≠ k.templates.map Template.listed := by
  decide +kernel

/-- A name that goes over two lines can be taken for a name and a file. -/
example : (empty.declareTemplate "page\n      file: page.html" none).listing =
    (empty.declareTemplate "page" (some "page.html")).listing := by
  decide +kernel

end Graph

end TemplateDeps

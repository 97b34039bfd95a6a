import Mathlib.Data.List.TakeWhile
import Entigram.Config.Loading
import Entigram.Json.Reader
import Entigram.Proofs.Attempt
import Entigram.Proofs.Config.Checked
import Entigram.Proofs.Config.Tree
import Entigram.Standard

/-!
# How loading fails

A configuration that cannot be loaded should be one that is not there or that has issues.  Where the
files are there and hold JSON objects, whatever these say, four things can be different
(`asExpected_load_iff`).

* The reader of configuration files complains about one of them.  What it reads may be another
  language than JSON, with rules of its own.
* A variable sets something in a section that is neither an object nor missing.
* The output directory is neither text nor empty.
* Whoever is told of the steps does not take a text.

Of the reader no more is known than that it takes an object for an object, if it takes it at all
(`ReadsObjects`).

Loading is a chain of steps that tell texts.  A step comes to its result if all of its texts are
taken and is refused otherwise (`Tells`), and so does a chain, with the texts of all its steps
(`Tells.andThen`).
-/

set_option autoImplicit false

namespace Entigram
namespace Config

/-! ## Steps that tell texts -/

/-- The listener takes a text. -/
def Listener.Takes (listener : Listener) (text : String) : Prop := listener.hear text = .ok ()

theorem Listener.isOk_hear_iff {listener : Listener} {text : String} :
    (listener.hear text).isOk = true ↔ listener.Takes text := by
  rw [Takes]
  cases listener.hear text with
  | error why => exact iff_of_false nofun nofun
  | ok u => exact iff_of_true rfl rfl

/-- A step that tells texts and comes to a result, unless one of the texts is refused. -/
structure Tells {α : Type} (listener : Listener) (x : Step α) (texts : List String)
    (result : Except LoadFailure α) : Prop where
  eq_of_takes : (∀ text ∈ texts, listener.Takes text) → x.2 = result
  refused : (∃ text ∈ texts, ¬listener.Takes text) → ∃ why, x.2 = .error (.refused why)

namespace Tells

variable {α β : Type} {listener : Listener}

/-- A step that tells nothing. -/
theorem silent (log : List String) (result : Except LoadFailure α) :
    Tells listener (log, result) [] result where
  eq_of_takes _ := rfl
  refused := by
    rintro ⟨_, hmem, -⟩
    cases hmem

/-- Telling a text. -/
theorem tell (text : String) : Tells listener (tell listener text) [text] (.ok ()) where
  eq_of_takes h := by
    have htakes : listener.hear text = .ok () := h text (List.mem_singleton_self _)
    rw [Config.tell, htakes]
  refused := by
    rintro ⟨_, hmem, hrefuses⟩
    obtain rfl := List.mem_singleton.1 hmem
    rw [Config.tell]
    split
    · next why _ => exact ⟨why, rfl⟩
    · next htakes => exact absurd htakes hrefuses

theorem snd_andThen_of_error {x : Step α} (f : α → Step β) {why : LoadFailure}
    (h : x.2 = .error why) : (x.andThen f).2 = .error why := by
  obtain ⟨log, result⟩ := x
  subst h
  rfl

/-- A step that fails is not followed by another. -/
theorem andThen_of_error {x : Step α} {texts : List String} {why : LoadFailure}
    (h : Tells listener x texts (.error why)) (f : α → Step β) :
    Tells listener (x.andThen f) texts (.error why) where
  eq_of_takes htakes := snd_andThen_of_error f (h.eq_of_takes htakes)
  refused hrefuses := (h.refused hrefuses).imp fun _ => snd_andThen_of_error f

/-- One step after another tells the texts of both. -/
theorem andThen {x : Step α} {f : α → Step β} {a : α} {texts more : List String}
    {result : Except LoadFailure β} (hx : Tells listener x texts (.ok a))
    (hf : Tells listener (f a) more result) :
    Tells listener (x.andThen f) (texts ++ more) result := by
  have hthen : x.2 = .ok a → (x.andThen f).2 = (f a).2 := by
    obtain ⟨log, r⟩ := x
    rintro rfl
    rfl
  constructor
  · intro h
    rw [List.forall_mem_append] at h
    rw [hthen (hx.eq_of_takes h.1), hf.eq_of_takes h.2]
  · intro h
    by_cases htakes : ∀ text ∈ texts, listener.Takes text
    · rw [hthen (hx.eq_of_takes htakes)]
      obtain ⟨text, hmem, hrefuses⟩ := h
      rcases List.mem_append.1 hmem with hfirst | hlater
      · exact absurd (htakes text hfirst) hrefuses
      · exact hf.refused ⟨text, hlater, hrefuses⟩
    · exact (hx.refused (by simpa using htakes)).imp fun _ => snd_andThen_of_error f

/-- A change tells its reports, and then it is made or has its fault. -/
theorem change (c : Change) : Tells listener (c.step listener) c.log
    (match c.fault with
      | some fault => .error (.tree fault)
      | none => .ok (.obj c.fields)) := by
  -- what is left of the reports where the listener stops
  have hleft : c.reports.drop (c.reports.takeWhile fun r => (listener.hear r.text).isOk).length =
      c.reports.dropWhile fun r => (listener.hear r.text).isOk := by
    generalize (fun r : Report => (listener.hear r.text).isOk) = p
    have hdrop : (c.reports.takeWhile p ++ c.reports.dropWhile p).drop
        (c.reports.takeWhile p).length = c.reports.dropWhile p := List.drop_left
    rwa [List.takeWhile_append_dropWhile] at hdrop
  unfold Change.step Change.heardBy
  simp only [hleft, Change.log]
  cases hstop : c.reports.dropWhile fun r => (listener.hear r.text).isOk with
  | nil =>
    rw [List.dropWhile_eq_nil_iff] at hstop
    constructor
    · intro _
      cases c.fault <;> rfl
    · rintro ⟨_, hmem, hrefuses⟩
      obtain ⟨r, hr, rfl⟩ := List.mem_map.1 hmem
      exact absurd (Listener.isOk_hear_iff.1 (hstop r hr)) hrefuses
  | cons r rest =>
    have hr : ¬listener.Takes r.text := by
      have hhead := List.head?_dropWhile_not (fun r => (listener.hear r.text).isOk) c.reports
      simp only [hstop, List.head?_cons] at hhead
      rw [← Listener.isOk_hear_iff, hhead]
      exact Bool.false_ne_true
    constructor
    · intro h
      have hmem : r ∈ c.reports := (List.dropWhile_sublist _).subset (hstop ▸ List.mem_cons_self)
      exact absurd (h _ (List.mem_map_of_mem hmem)) hr
    · intro _
      cases hheard : listener.hear r.text with
      | error why => exact ⟨why, by simp only [hheard]⟩
      | ok u => exact absurd hheard hr

end Tells

/-! ## What files hold -/

/-- Does a text escape half a character?  A backslash that is escaped itself begins no escape. -/
def escapesHalf : List Char → Bool
  | '\\' :: 'u' :: cs =>
    (Json.Reader.hex4? cs).any (fun found => 0xD800 ≤ found.1 && found.1 < 0xE000) || escapesHalf cs
  | '\\' :: _ :: cs => escapesHalf cs
  | _ :: cs => escapesHalf cs
  | [] => false

/-- The text of a configuration file that holds a JSON object, or nothing.  Its texts are made up of
characters: halves of these, which an escape can write, have no meaning here. -/
structure HoldsObject (text : String) : Prop where
  object : (∃ fields, Json.ofText? text = some (.obj fields)) ∨
    ∀ c ∈ text.toList, Json.Reader.isSpace c = true
  whole : escapesHalf text.toList = false

/-- **What is known of the reader**: it complains about an object, or it reads it as one.  An empty
file can be null. -/
def ReadsObjects (read : String → Except Complaint Json) : Prop :=
  ∀ text v, HoldsObject text → read text = .ok v → v = .null ∨ ∃ fields, v = .obj fields

/-- The reader complains about a file. -/
def IsMalformed (w : World) (path : Path) : Prop :=
  ∃ why, readValue w path = .error (.malformed path why)

/-- The fields that are read in a file.  One that is empty, or is not there, has none. -/
def fieldsIn (w : World) (file : Option Path) : Json.Fields :=
  match file.map (readValue w) with
  | some (.ok (.obj fields)) => fields
  | _ => []

/-- A file was read as an object with these fields, or as nothing. -/
def HoldsFields (w : World) : Option Path → Json.Fields → Prop
  | none, fields => fields = []
  | some path, fields => readValue w path = .ok (.obj fields) ∨
      readValue w path = .ok .null ∧ fields = []

/-- A file that holds an object is read as one, unless the reader complains. -/
theorem holdsFields_fieldsIn {w : World} (hreader : ReadsObjects w.libraries.readConfiguration)
    {file : Option Path} (hholds : ∀ path ∈ file, ∃ text,
      w.disk.read w.working path = .ok text ∧ HoldsObject (Text.unifyLineEnds text))
    (hread : ∀ path ∈ file, ¬IsMalformed w path) : HoldsFields w file (fieldsIn w file) := by
  cases file with
  | none => rfl
  | some path =>
    obtain ⟨text, htext, hobject⟩ := hholds path rfl
    have hvalue : readValue w path = (w.libraries.readConfiguration
        (Text.unifyLineEnds text)).mapError (.malformed path) := by
      rw [readValue, htext]
    rw [HoldsFields, fieldsIn, Option.map_some]
    cases hfound : w.libraries.readConfiguration (Text.unifyLineEnds text) with
    | error why => exact absurd ⟨why, by rw [hvalue, hfound]; rfl⟩ (hread path rfl)
    | ok v =>
      rw [hvalue, hfound]
      rcases hreader _ v hobject hfound with rfl | ⟨fields, rfl⟩
      · exact .inr ⟨rfl, rfl⟩
      · exact .inl rfl

/-! ## What is loaded -/

/-- What a load finds: the files of both layers, if there are any, with the fields that are read in
them, and the variables. -/
structure Sources where
  baseFile : Option Path
  base : Json.Fields
  environmentFile : Option Path
  upper : Json.Fields
  vars : List (String × String)

namespace Sources

/-- Both layers, one over the other. -/
def merged (x : Sources) : Json.Fields := (mergeFields x.base x.upper).1

/-- The layers with the variables over them. -/
def overridden (x : Sources) : Change := applyVariables x.vars x.merged

/-- What is told of the base file. -/
def baseText (x : Sources) : String :=
  match x.baseFile with
  | none => "No base config found, using defaults"
  | some path => s!"Loading base config: {path}"

/-- What is told of the file for the environment. -/
def environmentTexts (x : Sources) : List String :=
  (x.environmentFile.map fun path => s!"Loading environment config: {path}").toList

/-- What is told of the layers. -/
def texts (x : Sources) : List String :=
  [x.baseText] ++ (x.environmentTexts ++ ((mergeFields x.base x.upper).2.map (·.text) ++
    x.overridden.log))

/-- The files of both layers. -/
def files (x : Sources) : List Path := x.baseFile.toList ++ x.environmentFile.toList

theorem mem_files_iff {x : Sources} {path : Path} :
    path ∈ x.files ↔ path ∈ x.baseFile ∨ path ∈ x.environmentFile := by
  simp only [files, List.mem_append, Option.mem_toList, Option.mem_def]

/-- The world in which the sources are found by a request.  Nothing is said about what stands in the
files but that they hold objects, or nothing at all. -/
structure FoundBy (x : Sources) (w : World) (request : LoadRequest) : Prop where
  /-- The base file is there if one was asked for. -/
  exists_file : checkBaseFile w request.file = .ok ()
  /-- The files with variables add theirs to those of the environment. -/
  added : ∃ log, loadVariables request.listener w
    (if request.variableFiles then variableFiles request.environment else []) =
      (x.vars, log, .ok ())
  baseFile : Config.baseFile { w with vars := x.vars } request.file = .ok x.baseFile
  environmentFile : firstExisting { w with vars := x.vars }
    (environmentPaths request.file request.environment) = .ok x.environmentFile
  holds : ∀ path ∈ x.files, ∃ text,
    w.disk.read w.working path = .ok text ∧ HoldsObject (Text.unifyLineEnds text)
  base : x.base = fieldsIn w x.baseFile
  upper : x.upper = fieldsIn w x.environmentFile

end Sources

/-! ## The chain of steps -/

section chain

variable {x : Sources} {w : World} {request : LoadRequest}

theorem HoldsFields.eq_nil {fields : Json.Fields} (h : HoldsFields w none fields) : fields = [] := h

theorem HoldsFields.map_eq {α : Type} {path : Path} {fields : Json.Fields}
    (h : HoldsFields w (some path) fields) (empty : α) (full : Json → α) :
    ((readValue w path).map fun v => if isEmptyValue v then empty else full v) =
      .ok (if fields.isEmpty then empty else full (.obj fields)) := by
  rcases h with hread | ⟨hread, rfl⟩ <;> rw [hread] <;> rfl

theorem Tells.loadBase (hfile : baseFile w request.file = .ok x.baseFile)
    (hbase : HoldsFields w x.baseFile x.base) :
    Tells request.listener (loadBase w request) [x.baseText] (.ok (.obj x.base)) := by
  rw [Config.loadBase, hfile, Sources.baseText]
  cases hpath : x.baseFile with
  | none =>
    rw [hpath] at hbase
    rw [hbase.eq_nil]
    exact (Tells.tell _).andThen (Tells.silent [] _)
  | some path =>
    rw [hpath] at hbase
    have hfields : (if x.base.isEmpty then Json.obj [] else .obj x.base) = .obj x.base := by
      cases x.base <;> rfl
    have hvalue : ((readValue w path).map fun v =>
        if isEmptyValue v then .obj [] else v) = .ok (.obj x.base) :=
      (hbase.map_eq (.obj []) id).trans (congrArg Except.ok hfields)
    simp only [hvalue]
    exact (Tells.tell _).andThen (Tells.silent [] _)

theorem Tells.loadBase_of_error {path : Path} {why : LoadFailure}
    (hfile : baseFile w request.file = .ok (some path)) (h : readValue w path = .error why) :
    Tells request.listener (Config.loadBase w request) [s!"Loading base config: {path}"]
      (.error why) := by
  rw [Config.loadBase, hfile]
  simp only [h]
  exact (Tells.tell _).andThen (Tells.silent [] _)

/-- What the file for the environment comes to: nothing if it is empty. -/
def Sources.upperValue? (x : Sources) : Option Json :=
  if x.upper.isEmpty then none else some (.obj x.upper)

theorem Tells.loadEnvironment (hfile : firstExisting w
      (environmentPaths request.file request.environment) = .ok x.environmentFile)
    (hupper : HoldsFields w x.environmentFile x.upper) :
    Tells request.listener (loadEnvironment w request) x.environmentTexts
      (.ok x.upperValue?) := by
  unfold Config.loadEnvironment
  rw [hfile, Sources.environmentTexts, Sources.upperValue?]
  cases hpath : x.environmentFile with
  | none =>
    rw [hpath] at hupper
    rw [hupper.eq_nil]
    exact Tells.silent [] _
  | some path =>
    rw [hpath] at hupper
    simp only [hupper.map_eq none some]
    exact (Tells.tell _).andThen (Tells.silent [] _)

theorem Tells.loadEnvironment_of_error {path : Path} {why : LoadFailure}
    (hfile : firstExisting w (environmentPaths request.file request.environment) =
      .ok (some path)) (h : readValue w path = .error why) :
    Tells request.listener (Config.loadEnvironment w request)
      [s!"Loading environment config: {path}"] (.error why) := by
  unfold Config.loadEnvironment
  rw [hfile]
  simp only [h]
  exact (Tells.tell _).andThen (Tells.silent [] _)

/-- Without an upper layer nothing is merged, and with an empty one nothing would be. -/
theorem Tells.mergeUpper (listener : Listener) (x : Sources) :
    Tells listener (match x.upperValue? with
      | some u => mergeLayers listener (.obj x.base) u
      | none => ([], .ok (.obj x.base)))
    ((mergeFields x.base x.upper).2.map (·.text)) (.ok (.obj x.merged)) := by
  rw [Sources.upperValue?, Sources.merged]
  cases x.upper with
  | nil => exact Tells.silent [] _
  | cons f upper => exact Tells.change (merge x.base (.obj (f :: upper)))

/-- The layers tell their texts and come to the merged fields with the variables over them. -/
theorem Tells.layers (hvars : w.vars = x.vars) (hfile : baseFile w request.file = .ok x.baseFile)
    (hbase : HoldsFields w x.baseFile x.base)
    (hupperFile : firstExisting w
      (environmentPaths request.file request.environment) = .ok x.environmentFile)
    (hupper : HoldsFields w x.environmentFile x.upper) :
    Tells request.listener (layers w request) x.texts
      (match x.overridden.fault with
        | some fault => .error (.tree fault)
        | none => .ok (.obj x.overridden.fields)) := by
  rw [Config.layers, hvars]
  exact (Tells.loadBase hfile hbase).andThen <| (Tells.loadEnvironment hupperFile hupper).andThen <|
    (Tells.mergeUpper request.listener x).andThen (Tells.change x.overridden)

/-- A base file that cannot be read ends the chain. -/
theorem Tells.layers_of_base_error {path : Path} {why : LoadFailure}
    (hfile : baseFile w request.file = .ok (some path)) (h : readValue w path = .error why) :
    ∃ texts, Tells request.listener (Config.layers w request) texts (.error why) :=
  ⟨_, (Tells.loadBase_of_error hfile h).andThen_of_error _⟩

/-- So does a file for the environment. -/
theorem Tells.layers_of_upper_error {path : Path} {why : LoadFailure}
    (hfile : baseFile w request.file = .ok x.baseFile) (hbase : HoldsFields w x.baseFile x.base)
    (hupperFile : firstExisting w
      (environmentPaths request.file request.environment) = .ok (some path))
    (h : readValue w path = .error why) :
    ∃ texts, Tells request.listener (Config.layers w request) texts (.error why) :=
  ⟨_, (Tells.loadBase hfile hbase).andThen
    ((Tells.loadEnvironment_of_error hupperFile h).andThen_of_error _)⟩

/-! ## Loading -/

/-- What is told first. -/
def startText (request : LoadRequest) : String :=
  s!"[blue]Environment: {request.environment}[/blue]"

/-- Where everything is found, loading is one chain and a check of what it comes to. -/
theorem load_result (found : x.FoundBy w request) : (load w request).result =
    ((tell request.listener (startText request)).andThen fun () =>
      Config.layers { w with vars := x.vars } request).2.bind checkAll := by
  obtain ⟨log, hadded⟩ := found.added
  unfold load startText
  rw [found.exists_file]
  simp only [hadded]
  cases tell request.listener s!"[blue]Environment: {request.environment}[/blue]" with
  | mk told result => cases result <;> rfl

/-- The ways for loading to fail that are part of what it is for: the file that was asked for is
missing, and the configuration has issues. -/
def LoadFailure.IsExpected : LoadFailure → Prop
  | noFile _ => True
  | invalid _ => True
  | _ => False

/-- Settings, or an expected failure. -/
def AsExpected : Except LoadFailure Settings → Prop
  | .ok _ => True
  | .error why => why.IsExpected

theorem asExpected_checkAll_iff (fs : Json.Fields) : AsExpected (checkAll (.obj fs)) ↔
    ∀ v, read? (.obj fs) ["codegen", "output_dir"] = some v →
      isEmptyValue v = true ∨ ∃ s, v = .str s := by
  have hbreak : AsExpected (checkAll (.obj fs)) ↔ settings fs ≠ .notAPath := by
    rw [checkAll]
    cases settings fs <;> simp [AsExpected, LoadFailure.IsExpected]
  rw [hbreak, Ne, settings_eq_notAPath_iff]
  constructor
  · intro hnot v hv
    obtain ⟨inner, hinner, hdir⟩ := read?_pair_eq_some_iff.1 hv
    by_contra hbad
    rw [not_or, Bool.not_eq_true, not_exists] at hbad
    exact hnot ⟨inner, v, hinner, hdir, hbad⟩
  · rintro hall ⟨inner, v, hinner, hdir, hfull, hnotText⟩
    rcases hall v (read?_pair_eq_some_iff.2 ⟨inner, hinner, hdir⟩) with hempty | ⟨s, hs⟩
    · exact Bool.false_ne_true (hfull.symm.trans hempty)
    · exact hnotText s hs

/-- Where the layers fail, loading fails. -/
theorem Sources.FoundBy.not_asExpected (found : x.FoundBy w request) {why : LoadFailure}
    (h : ∃ texts, Tells request.listener (Config.layers { w with vars := x.vars } request) texts
      (.error why)) (hwhy : ¬why.IsExpected) : ¬AsExpected (load w request).result := by
  obtain ⟨texts, h⟩ := h
  have hchain := (Tells.tell (startText request)).andThen
    (f := fun () => Config.layers { w with vars := x.vars } request) h
  rw [load_result found]
  by_cases htakes : ∀ text ∈ [startText request] ++ texts, request.listener.Takes text
  · rw [hchain.eq_of_takes htakes]
    exact hwhy
  · obtain ⟨told, htold⟩ := hchain.refused (by simpa only [not_forall, exists_prop] using htakes)
    rw [htold]
    exact id

/-- A base file that is read holds what was found. -/
theorem Sources.FoundBy.holds_base (hreader : ReadsObjects w.libraries.readConfiguration)
    (found : x.FoundBy w request) (hread : ∀ path ∈ x.baseFile, ¬IsMalformed w path) :
    HoldsFields w x.baseFile x.base := by
  rw [found.base]
  exact holdsFields_fieldsIn hreader
    (fun path hmem => found.holds path (mem_files_iff.2 (.inl hmem))) hread

/-- So does a file for the environment. -/
theorem Sources.FoundBy.holds_upper (hreader : ReadsObjects w.libraries.readConfiguration)
    (found : x.FoundBy w request) (hread : ∀ path ∈ x.environmentFile, ¬IsMalformed w path) :
    HoldsFields w x.environmentFile x.upper := by
  rw [found.upper]
  exact holdsFields_fieldsIn hreader
    (fun path hmem => found.holds path (mem_files_iff.2 (.inr hmem))) hread

/-- A load that goes as expected read both files. -/
theorem not_isMalformed_of_asExpected (hreader : ReadsObjects w.libraries.readConfiguration)
    (found : x.FoundBy w request) (h : AsExpected (load w request).result) :
    ∀ path ∈ x.files, ¬IsMalformed w path := by
  have hbaseRead : ∀ path ∈ x.baseFile, ¬IsMalformed w path := by
    rintro path hpath ⟨why, hwhy⟩
    have hfile := found.baseFile
    rw [Option.mem_def.1 hpath] at hfile
    exact found.not_asExpected (Tells.layers_of_base_error hfile hwhy) id h
  have hupperRead : ∀ path ∈ x.environmentFile, ¬IsMalformed w path := by
    rintro path hpath ⟨why, hwhy⟩
    have hbase := found.holds_base hreader hbaseRead
    have hfile := found.environmentFile
    rw [Option.mem_def.1 hpath] at hfile
    exact found.not_asExpected (Tells.layers_of_upper_error found.baseFile hbase hfile hwhy) id h
  exact fun path hmem => (Sources.mem_files_iff.1 hmem).elim (hbaseRead path) (hupperRead path)

/-- Where both files are read, it is the texts, the variables and the output directory that
count. -/
theorem asExpected_load_iff_of_read (hreader : ReadsObjects w.libraries.readConfiguration)
    (found : x.FoundBy w request) (hread : ∀ path ∈ x.files, ¬IsMalformed w path) :
    AsExpected (load w request).result ↔
      (∀ text ∈ [startText request] ++ x.texts, request.listener.Takes text) ∧
      (∀ c ∈ sections, (∃ v ∈ x.vars, (variablePath? c.2 v.1).isSome = true) →
        CanBeSet x.merged c.1) ∧
      ∀ v, read? (.obj x.overridden.fields) ["codegen", "output_dir"] = some v →
        isEmptyValue v = true ∨ ∃ s, v = .str s := by
  have hbase := found.holds_base hreader fun path hmem =>
    hread path (Sources.mem_files_iff.2 (.inl hmem))
  have hupper := found.holds_upper hreader fun path hmem =>
    hread path (Sources.mem_files_iff.2 (.inr hmem))
  have hlayers : Tells request.listener (Config.layers { w with vars := x.vars } request)
      x.texts _ :=
    Tells.layers rfl found.baseFile hbase found.environmentFile hupper
  have hchain := (Tells.tell (startText request)).andThen
    (f := fun () => Config.layers { w with vars := x.vars } request) hlayers
  rw [load_result found, ← fault_applyVariables_eq_none_iff, ← asExpected_checkAll_iff]
  by_cases htakes : ∀ text ∈ [startText request] ++ x.texts, request.listener.Takes text
  · rw [hchain.eq_of_takes htakes, and_iff_right htakes]
    change _ ↔ x.overridden.fault = none ∧ _
    cases x.overridden.fault with
    | none => exact (and_iff_right rfl).symm
    | some fault => exact iff_of_false id fun h => Option.some_ne_none _ h.1
  · obtain ⟨why, hwhy⟩ := hchain.refused (by simpa only [not_forall, exists_prop] using htakes)
    rw [hwhy]
    exact iff_of_false id fun h => htakes h.1

/-- **How loading fails.**  Whatever the files of both layers hold, as long as they are objects or
nothing, and whatever variables there are, loading comes to settings or fails as expected just if
the reader does not complain about a file, every text that is told is taken, every section that a
variable sets is an object or missing, and the output directory is text, empty or missing in the
end. -/
theorem asExpected_load_iff (hreader : ReadsObjects w.libraries.readConfiguration)
    (found : x.FoundBy w request) :
    AsExpected (load w request).result ↔
      (∀ path ∈ x.files, ¬IsMalformed w path) ∧
      (∀ text ∈ [startText request] ++ x.texts, request.listener.Takes text) ∧
      (∀ c ∈ sections, (∃ v ∈ x.vars, (variablePath? c.2 v.1).isSome = true) →
        CanBeSet x.merged c.1) ∧
      ∀ v, read? (.obj x.overridden.fields) ["codegen", "output_dir"] = some v →
        isEmptyValue v = true ∨ ∃ s, v = .str s := by
  by_cases hread : ∀ path ∈ x.files, ¬IsMalformed w path
  · rw [and_iff_right hread, asExpected_load_iff_of_read hreader found hread]
  · exact iff_of_false (fun h => hread (not_isMalformed_of_asExpected hreader found h))
      fun h => hread h.1

end chain

/-- A reader of files that are JSON, or have nothing in them. -/
def readJson (text : String) : Except Complaint Json :=
  if text.toList.all Json.Reader.isSpace then .ok .null else
    match Json.ofText? text with
    | some v => .ok v
    | none => .error "not JSON"

theorem readsObjects_readJson : ReadsObjects readJson := by
  intro text v hholds hv
  rw [readJson] at hv
  split at hv
  · cases hv
    exact .inl rfl
  · next hfull =>
    obtain ⟨fields, hfields⟩ | hempty := hholds.object
    · rw [hfields] at hv
      cases hv
      exact .inr ⟨fields, rfl⟩
    · exact absurd (List.all_eq_true.2 hempty) hfull

/-- A note, and nothing else. -/
def soleNote : String := "\x7b\"_environment\": null\x7d"

/-- A base file, a file for the environment with nothing but a note, and variables. -/
def desk (base : String) (vars : List (String × String)) : World where
  disk := { nodes := [(["er2code.yaml"], .file base), (["test.yaml"], .file soleNote)] }
  vars := vars
  now := default
  libraries := { Libraries.standard (fun _ => "") with readConfiguration := readJson }

/-- A general section that holds nothing. -/
def emptySection : String := "\x7b\"global\": null\x7d"

/-- An output directory that is a number. -/
def numberedDirectory : String := "\x7b\"codegen\": \x7b\"output_dir\": 5\x7d\x7d"

def deskRequest : LoadRequest where
  file := some { root := "", names := ["er2code.yaml"] }
  environment := "test"

/-- What is found if only a variable for the other section is set. -/
def deskSources : Sources where
  baseFile := some { root := "", names := ["er2code.yaml"] }
  base := [("global", .null)]
  environmentFile := some { root := "", names := ["test.yaml"] }
  upper := [("_environment", .null)]
  vars := [("ER2CODE_CODEGEN_OUTPUT_DIR", "out")]

/-- The key of an object that has nothing but one key, with nothing there. -/
def emptyKey? : Json → Option String
  | .obj [(key, .null)] => some key
  | _ => none

theorem eq_of_emptyKey? {v : Json} {key : String} (h : emptyKey? v = some key) :
    v = .obj [(key, .null)] := by
  rw [emptyKey?.eq_def] at h
  split at h <;> cases h
  rfl

theorem readValue_of_emptyKey? {w : World} {path : Path} {key : String}
    (h : (readValue w path).toOption.bind emptyKey? = some key) :
    readValue w path = .ok (.obj [(key, .null)]) := by
  cases hread : readValue w path with
  | error why =>
    rw [hread] at h
    cases h
  | ok v =>
    rw [hread] at h
    rw [eq_of_emptyKey? h]

theorem holdsObject_of_emptyKey? {text : String} (key : String)
    (h : (Json.ofText? text).bind emptyKey? = some key)
    (hwhole : escapesHalf text.toList = false) : HoldsObject text where
  object := by
    obtain ⟨v, hv, hkey⟩ := Option.bind_eq_some_iff.1 h
    exact .inl ⟨_, hv.trans (congrArg some (eq_of_emptyKey? hkey))⟩
  whole := hwhole

theorem readValue_desk_base :
    readValue (desk emptySection deskSources.vars) { root := "", names := ["er2code.yaml"] } =
      .ok (.obj deskSources.base) :=
  readValue_of_emptyKey? (by decide +kernel)

theorem readValue_desk_upper :
    readValue (desk emptySection deskSources.vars) { root := "", names := ["test.yaml"] } =
      .ok (.obj deskSources.upper) :=
  readValue_of_emptyKey? (by decide +kernel)

theorem foundBy_desk : deskSources.FoundBy (desk emptySection deskSources.vars) deskRequest where
  exists_file := by decide +kernel
  added := ⟨[], by decide +kernel⟩
  baseFile := rfl
  environmentFile := by decide +kernel
  holds := by
    intro path hmem
    rcases Sources.mem_files_iff.1 hmem with hpath | hpath
    · obtain rfl := Option.some_inj.1 hpath
      exact ⟨emptySection, rfl,
        holdsObject_of_emptyKey? "global" (by decide +kernel) (by decide +kernel)⟩
    · obtain rfl := Option.some_inj.1 hpath
      exact ⟨soleNote, rfl,
        holdsObject_of_emptyKey? "_environment" (by decide +kernel) (by decide +kernel)⟩
  base := by
    change _ = fieldsIn _ (some _)
    rw [fieldsIn, Option.map_some, readValue_desk_base]
  upper := by
    change _ = fieldsIn _ (some _)
    rw [fieldsIn, Option.map_some, readValue_desk_upper]

theorem asExpected_load_iff_desk :
    ReadsObjects (desk emptySection deskSources.vars).libraries.readConfiguration ∧
    deskSources.FoundBy (desk emptySection deskSources.vars) deskRequest ∧
    (load (desk emptySection deskSources.vars) deskRequest).result =
      .error (.invalid [⟨["global"], .notSection "GlobalConfig"⟩]) ∧
    AsExpected (load (desk emptySection deskSources.vars) deskRequest).result := by
  have hset : CanBeSet deskSources.merged "codegen" := nofun
  have hfields : deskSources.overridden.fields =
      setAt deskSources.merged "codegen" ["output_dir"] (.str "out") :=
    fields_applyVariables_singleton (s := ("codegen", "CODEGEN")) (by decide) (by decide +kernel)
      hset
  refine ⟨readsObjects_readJson, foundBy_desk, by decide +kernel, ?_⟩
  rw [asExpected_load_iff (w := desk emptySection deskSources.vars) readsObjects_readJson
    foundBy_desk]
  refine ⟨?_, ?_, ?_, ?_⟩
  · rintro path hmem ⟨why, hwhy⟩
    rcases Sources.mem_files_iff.1 hmem with hpath | hpath
    · obtain rfl := Option.some_inj.1 hpath
      rw [readValue_desk_base] at hwhy
      cases hwhy
    · obtain rfl := Option.some_inj.1 hpath
      rw [readValue_desk_upper] at hwhy
      cases hwhy
  · exact fun _ _ => rfl
  · rw [sections, List.forall_mem_cons, List.forall_mem_singleton]
    exact ⟨fun hsets => absurd hsets (by decide +kernel), fun _ => hset⟩
  · intro v hv
    rw [hfields, read?_setAt_self] at hv
    exact .inr ⟨"out", (Option.some_inj.1 hv).symm⟩

/-- A variable for a section that holds nothing, and an output directory that is a number. -/
theorem load_fails_otherwise :
    (load (desk emptySection [("ER2CODE_GLOBAL_LOG_LEVEL", "debug")]) deskRequest).result =
      .error (.tree .noKeys) ∧
    (load (desk numberedDirectory []) deskRequest).result = .error .notAPath := by
  decide +kernel

end Config
end Entigram

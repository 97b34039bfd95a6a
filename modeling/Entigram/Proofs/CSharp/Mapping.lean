import Entigram.Proofs.CSharp.Lines

/-!
# Mappings are read off their source

A mapping has five sections, and any of them may be missing.  All entries of the last four begin in
one way, and the keys of join tables are written just as composite keys are, so a line alone does
not tell where it belongs.  Still two mappings have one source only if they configure the same
(`mapping_lossless`), as long as there is no space and no line feed in a name:

* **Query surfaces** are indented and followed by an empty line (`surfaceLines_inj`).
* **Sections** begin with headings of their own, so one that is missing is not mistaken for another
  one, whatever comes next.  No entry has a line that looks like the heading or the end of a section
  (`isStatement`), so every section ends where its entries do (`sectionLines_inj`).
* **Entries** have two lines each, so they can be counted off (`map_eq_map_of_flatMap_eq`).
* **Keys** are joined by a comma and a space, which no property has in its name (`keyList_inj`).

The class that is owned is not written, only its owner and the owner's navigation to it are.
-/

set_option autoImplicit false

namespace Entigram

open Text Naming Attempt

namespace CSharp

/-! ## Query surfaces -/

theorem toList_surfaceLine (q : QuerySurface) : (surfaceLine q).toList =
    (line 1 "public DbSet<").toList ++ ((q.className.toList ++ ['>']) ++
      ' ' :: (q.name.toList ++ ' ' :: (accessors.toList ++ " = default!;".toList))) := by
  simp [surfaceLine, line, toString]

/-- Query surfaces are read off their lines. -/
theorem surfaceLine_inj {q r : QuerySurface}
    (hq : Avoids isGap q.className ∧ Avoids isGap q.name)
    (hr : Avoids isGap r.className ∧ Avoids isGap r.name) (h : surfaceLine q = surfaceLine r) :
    q = r := by
  have hclass : ∀ {c : String}, Avoids isGap c → ∀ x ∈ c.toList ++ ['>'], isGap x = false := by
    intro c hc
    rw [List.forall_mem_append, List.forall_mem_singleton]
    exact ⟨hc, by decide⟩
  rw [← String.toList_inj, toList_surfaceLine, toList_surfaceLine] at h
  obtain ⟨hclasses, -, hrest⟩ := append_cons_inj (P := fun c => isGap c = false) (hclass hq.1)
    (hclass hr.1) (by decide) (by decide) (List.append_cancel_left h)
  obtain ⟨hnames, -, -⟩ := append_cons_inj (P := fun c => isGap c = false) hq.2 hr.2 (by decide)
    (by decide) hrest
  cases q
  cases r
  obtain rfl := String.toList_inj.1 (List.append_cancel_right hclasses)
  obtain rfl := String.toList_inj.1 hnames
  rfl

/-- All query surfaces are read off their lines, up to the empty line behind them. -/
theorem surfaceLines_inj {qs rs : List QuerySurface} {rest rest' : List String}
    (hqs : ∀ q ∈ qs, Avoids isGap q.className ∧ Avoids isGap q.name)
    (hrs : ∀ r ∈ rs, Avoids isGap r.className ∧ Avoids isGap r.name)
    (h : qs.map surfaceLine ++ "" :: rest = rs.map surfaceLine ++ "" :: rest') :
    qs = rs ∧ rest = rest' := by
  obtain ⟨hlines, -, hrest⟩ := append_cons_inj (P := fun l => isIndented l = true)
    (List.forall_mem_map.2 fun q _ => isIndented_line 0 _)
    (List.forall_mem_map.2 fun r _ => isIndented_line 0 _) (by decide) (by decide) h
  have hall := map_eq_map_of_inj (g := id) (fun _ _ => surfaceLine_inj) hqs hrs hlines
  rw [List.map_id, List.map_id] at hall
  exact ⟨hall, hrest⟩

/-! ## Sections -/

/-- Does a line look like one of an entry?  It has two levels of indentation, with a call or with
more indentation behind them. -/
def isStatement (l : String) : Bool := (l.toList[8]?).any fun c => c = 'm' || c = ' '

theorem isStatement_entityLine (c : String) : isStatement (entityLine c) = true := by
  simp [isStatement, entityLine, line, indent, toString]

theorem isStatement_line (text : String) : isStatement (line 3 text) = true := by
  simp [isStatement, line, indent]

/-- What makes up the entries of a section: statements, as many for each. -/
structure IsEntry {α : Type} (entry : α → List String) : Prop where
  length : ∀ x, (entry x).length = 2
  statement : ∀ x, ∀ l ∈ entry x, isStatement l = true

/-- An entry begins with its class, and goes on with one line. -/
theorem isEntry {α : Type} (className : α → String) (text : α → String) :
    IsEntry fun x => [entityLine (className x), line 3 (text x)] where
  length _ := rfl
  statement x := by
    rw [List.forall_mem_cons, List.forall_mem_singleton]
    exact ⟨isStatement_entityLine _, isStatement_line _⟩

theorem isEntry_ownershipLines : IsEntry ownershipLines := isEntry Ownership.owner _

theorem isEntry_keyLines : IsEntry keyLines := isEntry KeyPlan.className _

theorem isEntry_keylessLines : IsEntry keylessLines := isEntry id _

/-- Entries that are equally long can be counted off. -/
theorem map_eq_map_of_flatMap_eq {α β : Type} {f : α → List β} {n : Nat} (hn : n ≠ 0)
    (hlen : ∀ x, (f x).length = n) {xs ys : List α} (h : xs.flatMap f = ys.flatMap f) :
    xs.map f = ys.map f := by
  have hne : ∀ x, f x ≠ [] := fun x hx => hn (by rw [← hlen x, hx, List.length_nil])
  induction xs generalizing ys with
  | nil =>
    cases ys with
    | nil => rfl
    | cons y ys => exact absurd (List.append_eq_nil_iff.1 h.symm).1 (hne y)
  | cons x xs ih =>
    cases ys with
    | nil => exact absurd (List.append_eq_nil_iff.1 h).1 (hne x)
    | cons y ys =>
      obtain ⟨hxy, hrest⟩ := List.append_inj h (by rw [hlen, hlen])
      rw [List.map_cons, List.map_cons, hxy, ih hrest]

section sections

variable {α : Type} {heading : String} {entry : α → List String} {ending rest rest' : List String}
  {xs ys : List α}

theorem sectionLines_cons (x : α) : sectionLines heading entry ending (x :: xs) ++ rest =
    line 2 heading :: ((x :: xs).flatMap entry ++ (ending ++ rest)) := by
  simp [sectionLines]

/-- No other line than its heading can be the first one of a section. -/
theorem head?_sectionLines_append_ne {l : String} (hl : line 2 heading ≠ l)
    (hrest : rest.head? ≠ some l) :
    (sectionLines heading entry ending xs ++ rest).head? ≠ some l := by
  cases xs with
  | nil => exact hrest
  | cons x xs =>
    rw [sectionLines_cons, List.head?_cons]
    exact fun h => hl (Option.some_inj.1 h)

/-- **A section is read off its lines**, if what follows does not begin with its heading.  The line
behind the entries, which is no statement, may be the section's end or stand behind the section. -/
theorem sectionLines_inj (hentry : IsEntry entry) {l : String} {ls ls' : List String}
    (hl : isStatement l = false) (hstop : ending ++ rest = l :: ls)
    (hstop' : ending ++ rest' = l :: ls') (hrest : rest.head? ≠ some (line 2 heading))
    (hrest' : rest'.head? ≠ some (line 2 heading))
    (h : sectionLines heading entry ending xs ++ rest =
      sectionLines heading entry ending ys ++ rest') :
    xs.map entry = ys.map entry ∧ rest = rest' := by
  have hstatements : ∀ zs : List α, ∀ l ∈ zs.flatMap entry, isStatement l = true := fun zs =>
    List.forall_mem_flatMap.2 fun z _ => hentry.statement z
  cases xs with
  | nil =>
    cases ys with
    | nil => exact ⟨rfl, h⟩
    | cons y ys =>
      rw [sectionLines_cons] at h
      exact absurd (congrArg List.head? h) hrest
  | cons x xs =>
    cases ys with
    | nil =>
      rw [sectionLines_cons] at h
      exact absurd (congrArg List.head? h.symm) hrest'
    | cons y ys =>
      rw [sectionLines_cons, sectionLines_cons, hstop, hstop'] at h
      obtain ⟨hlines, -, rfl⟩ := append_cons_inj (P := fun l => isStatement l = true)
        (hstatements (x :: xs)) (hstatements (y :: ys)) (by simp [hl]) (by simp [hl])
        (List.cons.inj h).2
      exact ⟨map_eq_map_of_flatMap_eq (by decide) hentry.length hlines,
        List.append_cancel_left (hstop.trans hstop'.symm)⟩

/-- A section has the lines that its entries have. -/
theorem sectionLines_congr (h : xs.map entry = ys.map entry) :
    sectionLines heading entry ending xs = sectionLines heading entry ending ys := by
  have hempty : xs.isEmpty = ys.isEmpty := by
    rw [← List.isEmpty_map (f := entry), h, List.isEmpty_map]
  rw [sectionLines, sectionLines, hempty, List.flatMap_def, List.flatMap_def, h]

end sections

/-! ## Entries -/

/-- What stands between fixed parts is told by the line. -/
theorem line_inj {depth : Nat} {before after x y : String}
    (h : line depth (before ++ x ++ after) = line depth (before ++ y ++ after)) : x = y := by
  rw [line, line, ← String.toList_inj] at h
  rw [← String.toList_inj]
  simpa using h

theorem entityLine_inj {c d : String} (h : entityLine c = entityLine d) : c = d := line_inj h

/-- What is written about an ownership: the owner, and its navigation to what it owns. -/
def shownOwnership (o : Ownership) : String × String := (o.owner, o.navigation)

theorem ownershipLines_eq_iff {o o' : Ownership} :
    ownershipLines o = ownershipLines o' ↔ shownOwnership o = shownOwnership o' := by
  rw [shownOwnership, shownOwnership, Prod.mk.injEq]
  constructor
  · intro h
    obtain ⟨howner, hrest⟩ := List.cons.inj h
    exact ⟨entityLine_inj howner, line_inj (List.cons.inj hrest).1⟩
  · rintro ⟨howner, hnavigation⟩
    rw [ownershipLines, ownershipLines, howner, hnavigation]

theorem keylessLines_inj {c d : String} (h : keylessLines c = keylessLines d) : c = d :=
  entityLine_inj (List.cons.inj h).1

/-- The properties of a key are told by their list. -/
theorem keyList_inj {names names' : List String} (h : ∀ name ∈ names, Avoids isGap name)
    (h' : ∀ name ∈ names', Avoids isGap name) (hlist : keyList names = keyList names') :
    names = names' := by
  have hpiece : ∀ {names : List String}, (∀ name ∈ names, Avoids isGap name) →
      ∀ p ∈ (names.map fun name => s!"e.{name}").map String.toList, p ≠ [] ∧ ' ' ∉ p := by
    intro names h p hp
    rw [List.map_map] at hp
    obtain ⟨name, hname, rfl⟩ := List.mem_map.1 hp
    have hgap : ' ' ∉ name.toList := fun hc => absurd (h name hname _ hc) (by decide)
    simp [toString, hgap]
  rw [keyList, keyList, ← String.toList_inj, String.toList_intercalate,
    String.toList_intercalate] at hlist
  have hcomma : ' ' ∉ [','] := by decide
  have hpieces := intercalate_concat_inj hcomma (hpiece h) (hpiece h') hlist
  rw [List.map_map, List.map_map] at hpieces
  refine List.map_injective_iff.2 (fun a b hab => ?_) hpieces
  rw [← String.toList_inj]
  simpa [toString] using hab

/-- A key is read off its lines. -/
theorem keyLines_inj {k k' : KeyPlan} (hk : k.Avoids isGap) (hk' : k'.Avoids isGap)
    (h : keyLines k = keyLines k') : k = k' := by
  rw [keyLines_eq, keyLines_eq] at h
  obtain ⟨hclass, hrest⟩ := List.cons.inj h
  have hlist : keyList k.properties = keyList k'.properties := line_inj (List.cons.inj hrest).1
  have hproperties := keyList_inj hk.properties hk'.properties hlist
  cases k
  cases k'
  obtain rfl := entityLine_inj hclass
  obtain rfl := hproperties
  rfl

theorem keyLines_map_inj {ks ks' : List KeyPlan} (hks : ∀ k ∈ ks, k.Avoids isGap)
    (hks' : ∀ k ∈ ks', k.Avoids isGap) (h : ks.map keyLines = ks'.map keyLines) : ks = ks' := by
  have hall := map_eq_map_of_inj (g := id) (fun _ _ => keyLines_inj) hks hks' h
  rwa [List.map_id, List.map_id] at hall

/-! ## Whole mappings -/

/-- What is written about a mapping: all of it but the classes that are owned. -/
def shownMapping (m : MappingPlan) :
    List QuerySurface × List (String × String) × List KeyPlan × List String × List KeyPlan :=
  (m.querySurfaces, m.ownerships.map shownOwnership, m.compositeKeys, m.keyless, m.joinTableKeys)

/-- The lines behind the configuration. -/
def methodEnd : List String := [line 1 "\x7d", "\x7d"]

/-- The lines from the join tables on. -/
def fromJoinTables (m : MappingPlan) : List String :=
  sectionLines "// Configure many-to-many join tables" keyLines [] m.joinTableKeys ++ methodEnd

/-- The lines from the classes without a key on. -/
def fromKeyless (m : MappingPlan) : List String :=
  sectionLines "// Configure keyless entities" keylessLines [""] m.keyless ++ fromJoinTables m

/-- The lines from the composite keys on. -/
def fromKeys (m : MappingPlan) : List String :=
  sectionLines "// Configure composite keys" keyLines [""] m.compositeKeys ++ fromKeyless m

theorem configurationLines_append (m : MappingPlan) : configurationLines m ++ methodEnd =
    sectionLines "// Configure owned entities" ownershipLines [""] m.ownerships ++ fromKeys m := by
  simp only [configurationLines, fromKeys, fromKeyless, fromJoinTables, List.append_assoc]

/-- The lines behind a section begin with a later heading or with the end of the method. -/
theorem head?_fromJoinTables_ne (m : MappingPlan) {l : String}
    (hjoins : line 2 "// Configure many-to-many join tables" ≠ l) (hend : line 1 "\x7d" ≠ l) :
    (fromJoinTables m).head? ≠ some l :=
  head?_sectionLines_append_ne hjoins fun h => hend (Option.some_inj.1 h)

theorem head?_fromKeyless_ne (m : MappingPlan) {l : String}
    (hkeyless : line 2 "// Configure keyless entities" ≠ l)
    (hjoins : line 2 "// Configure many-to-many join tables" ≠ l) (hend : line 1 "\x7d" ≠ l) :
    (fromKeyless m).head? ≠ some l :=
  head?_sectionLines_append_ne hkeyless (head?_fromJoinTables_ne m hjoins hend)

/-- The configuration is read off its lines, section by section. -/
theorem configurationLines_inj {m n : MappingPlan} (hm : m.Avoids isGap) (hn : n.Avoids isGap)
    (h : configurationLines m ++ methodEnd = configurationLines n ++ methodEnd) :
    m.ownerships.map shownOwnership = n.ownerships.map shownOwnership ∧
      m.compositeKeys = n.compositeKeys ∧ m.keyless = n.keyless ∧
      m.joinTableKeys = n.joinTableKeys := by
  have hblank : isStatement "" = false := by decide
  have hend : isStatement (line 1 "\x7d") = false := by decide
  have hkeys : ∀ p : MappingPlan,
      (fromKeys p).head? ≠ some (line 2 "// Configure owned entities") := fun p =>
    head?_sectionLines_append_ne (by decide)
      (head?_fromKeyless_ne p (by decide) (by decide) (by decide))
  have hkeyless : ∀ p : MappingPlan,
      (fromKeyless p).head? ≠ some (line 2 "// Configure composite keys") := fun p =>
    head?_fromKeyless_ne p (by decide) (by decide) (by decide)
  have hjoins : ∀ p : MappingPlan,
      (fromJoinTables p).head? ≠ some (line 2 "// Configure keyless entities") := fun p =>
    head?_fromJoinTables_ne p (by decide) (by decide)
  -- sections are taken off from the front
  rw [configurationLines_append, configurationLines_append] at h
  obtain ⟨hownerships, h⟩ := sectionLines_inj isEntry_ownershipLines hblank rfl rfl (hkeys m)
    (hkeys n) h
  obtain ⟨hcomposite, h⟩ := sectionLines_inj isEntry_keyLines hblank rfl rfl (hkeyless m)
    (hkeyless n) h
  obtain ⟨hclasses, h⟩ := sectionLines_inj isEntry_keylessLines hblank rfl rfl (hjoins m)
    (hjoins n) h
  obtain ⟨hjoin, -⟩ := sectionLines_inj isEntry_keyLines hend rfl rfl (by decide) (by decide) h
  exact ⟨map_eq_map_of_inj (P := fun _ => True) (fun _ _ _ _ => ownershipLines_eq_iff.1)
      (fun _ _ => trivial) (fun _ _ => trivial) hownerships,
    keyLines_map_inj hm.compositeKeys hn.compositeKeys hcomposite,
    List.map_injective_iff.2 (fun _ _ => keylessLines_inj) hclasses,
    keyLines_map_inj hm.joinTableKeys hn.joinTableKeys hjoin⟩

/-- No line feed stands inside a line behind the opening of a context. -/
theorem lineFeed_not_mem_bodyLines {m : MappingPlan} (h : m.Avoids isGap) :
    ∀ l ∈ bodyLines m, '\n' ∉ l.toList := fun l hl =>
  avoids_lineFeed_iff.1 (avoids_bodyLines sparesPlain_lineFeed
    (h.mono fun _ => ne_lineFeed_of_isGap) l hl)

/-- What is behind the opening of a context is told by what is written about the mapping. -/
theorem bodyLines_inj {m n : MappingPlan} (hm : m.Avoids isGap) (hn : n.Avoids isGap)
    (h : bodyLines m = bodyLines n) : shownMapping m = shownMapping n := by
  obtain ⟨hsurfaces, hrest⟩ := surfaceLines_inj hm.querySurfaces hn.querySurfaces h
  obtain ⟨hownerships, hcomposite, hkeyless, hjoin⟩ :=
    configurationLines_inj hm hn (List.cons.inj (List.cons.inj hrest).2).2
  rw [shownMapping, shownMapping, hsurfaces, hownerships, hcomposite, hkeyless, hjoin]

/-- And the other way round. -/
theorem bodyLines_congr {m n : MappingPlan} (h : shownMapping m = shownMapping n) :
    bodyLines m = bodyLines n := by
  simp only [shownMapping, Prod.mk.injEq] at h
  obtain ⟨hsurfaces, hownerships, hcomposite, hkeyless, hjoin⟩ := h
  have hlines : m.ownerships.map ownershipLines = n.ownerships.map ownershipLines :=
    map_eq_map_of_inj (P := fun _ => True) (fun _ _ _ _ => ownershipLines_eq_iff.2)
      (fun _ _ => trivial) (fun _ _ => trivial) hownerships
  rw [bodyLines, bodyLines, configurationLines, configurationLines, hsurfaces, hcomposite,
    hkeyless, hjoin, sectionLines_congr hlines]

/-- **No section of a mapping is taken for another.**  Under any style, if no space or line feed is
in a name, two mappings have one source just if they agree on everything that is written about them:
the query surfaces, the owners with their navigations to what they own, the composite keys, the
classes without a key and the keys of join tables, each in order.  All mappings of diagrams have
names of that kind. -/
theorem mapping_lossless (style : Style) :
    (∀ m n : MappingPlan, m.Avoids isGap → n.Avoids isGap →
      (mapping style m = mapping style n ↔
        m.querySurfaces = n.querySurfaces ∧
        (m.ownerships.map fun o => (o.owner, o.navigation)) =
          (n.ownerships.map fun o => (o.owner, o.navigation)) ∧
        m.compositeKeys = n.compositeKeys ∧ m.keyless = n.keyless ∧
        m.joinTableKeys = n.joinTableKeys)) ∧
    ∀ (text : String) (m : MappingPlan),
      (Plan.mapping (Diagram.parse text)).result = .ok m → m.Avoids isGap := by
  refine ⟨fun m n hm hn => ?_, fun text m hm =>
    (Plan.avoids_mapping_of_parse hm).mono fun _ => isGap_eq_false⟩
  have hshown : mapping style m = mapping style n ↔ shownMapping m = shownMapping n := by
    constructor
    · intro h
      rw [← String.toList_inj, toList_mapping, toList_mapping] at h
      exact bodyLines_inj hm hn (flatMap_ended_inj (lineFeed_not_mem_bodyLines hm)
        (lineFeed_not_mem_bodyLines hn) (List.append_cancel_left h))
    · intro h
      rw [← String.toList_inj, toList_mapping, toList_mapping, bodyLines_congr h]
  rw [hshown, shownMapping, shownMapping, Prod.mk.injEq, Prod.mk.injEq, Prod.mk.injEq,
    Prod.mk.injEq]
  rfl

/-- A mapping with a composite key. -/
def composed : MappingPlan where
  querySurfaces := [⟨"User", "Users"⟩]
  ownerships := [⟨"User", "Address", "Address"⟩]
  compositeKeys := [⟨"User", ["Id", "Region"]⟩]

/-- The same key, but of a join table. -/
def joined : MappingPlan where
  querySurfaces := [⟨"User", "Users"⟩]
  ownerships := [⟨"User", "Home", "Address"⟩]
  joinTableKeys := [⟨"User", ["Id", "Region"]⟩]

/-- What is owned is not written, and where a key belongs is. -/
theorem mapping_lossless_composed :
    mapping {} composed = mapping {} { composed with ownerships := joined.ownerships } ∧
      mapping {} composed ≠ mapping {} joined ∧
      ∃ m, (Plan.mapping (Diagram.parse "USER \x7b\n\x7d")).result = .ok m ∧ m.Avoids isGap := by
  obtain ⟨hlossless, hnames⟩ := mapping_lossless {}
  have hcomposed : composed.Avoids isGap := ⟨by decide, by decide, by decide, by decide, by decide⟩
  have howned : MappingPlan.Avoids isGap { composed with ownerships := joined.ownerships } :=
    ⟨by decide, by decide, by decide, by decide, by decide⟩
  have hjoined : joined.Avoids isGap := ⟨by decide, by decide, by decide, by decide, by decide⟩
  refine ⟨(hlossless _ _ hcomposed howned).2 ⟨rfl, rfl, rfl, rfl, rfl⟩, fun h => ?_, ?_⟩
  · obtain ⟨-, -, hkeys, -⟩ := (hlossless _ _ hcomposed hjoined).1 h
    exact absurd hkeys (by decide)
  · have hok : fault? (Plan.mapping (Diagram.parse "USER \x7b\n\x7d")).result = none := by
      decide +kernel
    obtain ⟨m, hm⟩ := fault?_eq_none_iff.1 hok
    exact ⟨m, hm, hnames _ m hm⟩

end CSharp
end Entigram

import Mathlib.Data.Set.Basic
import Entigram.Disk
import Entigram.Proofs.Attempt

/-!
# What operations on files leave alone

An operation can put files in some places, and it makes directories.  Everything else stays: no
directory goes away, and in other places no file is made, changed or removed (`Disk.Keeps`).  One
such change after another is one for the places of both.

Where a path leads depends on directories only, and these stay.  So a path that leads somewhere goes
on leading there (`Keeps.locate`).  The place itself can be told from the path and the working
directory (`eq_of_locate`).

Giving a file a new content can end in three ways (`Overwrites`): the file cannot be opened, and
then nothing is changed; it was opened, but the device did not take the content as a whole; or it
holds the content.
-/

set_option autoImplicit false

namespace Entigram

namespace Disk

variable {d d' d'' : Disk} {places places' : Set Place} {place : Place} {working : Place}
  {p : Path} {content : String} {device : Device}

theorem at?_nil (d : Disk) : d.at? [] = some .directory := rfl

/-! ## Where a path leads -/

theorem requireDirectory_eq_ok_iff : d.requireDirectory place = .ok () ↔
    d.at? place = some .directory := by
  rw [requireDirectory]
  split
  · next h => exact iff_of_true rfl h
  · next h => exact iff_of_false nofun (by simp [h])
  · next h => exact iff_of_false nofun (by simp [h])

/-- A path that can be followed leads to the place that its names say. -/
theorem eq_of_locate (h : d.locate working p = .ok place) :
    place = (absolute working p).names := by
  have hfrom : ∀ (names : List String) (here : Place), d.locateFrom here names = .ok place →
      place = names.foldl next here := by
    intro names
    induction names with
    | nil => exact fun here hok => (Except.ok.inj hok).symm
    | cons name names ih =>
      intro here hok
      rw [locateFrom, Attempt.bind_eq_ok_iff] at hok
      obtain ⟨_, -, hok⟩ := hok
      obtain ⟨_, -, hok⟩ := Attempt.bind_eq_ok_iff.1 hok
      exact ih _ hok
  rw [locate, Attempt.bind_eq_ok_iff] at h
  obtain ⟨_, -, hok⟩ := h
  exact hfrom _ _ hok

/-- What is asked about a path is what it leads to, as long as its names are not too long. -/
theorem find?_of_status {node : Option Node} (h : d.status working p = .ok node) :
    d.find? working p = node := by
  rw [status] at h
  rw [find?]
  split at h
  · next place hplace =>
    rw [hplace]
    exact Except.ok.inj h
  · cases h
  · next fault _ hfault =>
    rw [hfault]
    exact Except.ok.inj h

/-- What can be read is a file where the path leads. -/
theorem read_eq_ok_iff : d.read working p = .ok content ↔
    ∃ place, d.locate working p = .ok place ∧ d.at? place = some (.file content) := by
  rw [read, Attempt.bind_eq_ok_iff]
  refine exists_congr fun place => and_congr_right fun _ => ?_
  cases d.at? place with
  | none => exact iff_of_false nofun nofun
  | some node =>
    cases node with
    | directory => exact iff_of_false nofun nofun
    | file found => simp [pure, Except.pure]

/-! ## What stays -/

/-- Files are put in these places at most; apart from that directories are made. -/
structure Keeps (places : Set Place) (d d' : Disk) : Prop where
  directory : ∀ place, d.at? place = some .directory → d'.at? place = some .directory
  file : ∀ place ∉ places, ∀ content,
    d'.at? place = some (.file content) ↔ d.at? place = some (.file content)

namespace Keeps

theorem refl (places : Set Place) (d : Disk) : Keeps places d d where
  directory _ := id
  file _ _ _ := .rfl

theorem trans (h : Keeps places d d') (h' : Keeps places d' d'') : Keeps places d d'' where
  directory place := h'.directory place ∘ h.directory place
  file place hplace content := (h'.file place hplace content).trans (h.file place hplace content)

theorem mono (h : Keeps places d d') (hsub : places ⊆ places') : Keeps places' d d' where
  directory := h.directory
  file place hplace := h.file place fun hmem => hplace (hsub hmem)

/-- Putting a file where no directory is. -/
theorem set_file (h : d.at? place ≠ some .directory) (content : String) :
    Keeps {place} d (d.set place (.file content)) where
  directory other hother := at?_set_file_of_directory h hother content
  file other hother content' := by rw [at?_set_ne hother]

/-- Making a directory where nothing is. -/
theorem set_directory (h : d.at? place = none) : Keeps ∅ d (d.set place .directory) where
  directory other hother := by
    have hne : other ≠ place := by
      rintro rfl
      rw [h] at hother
      cases hother
    rw [at?_set_ne hne, hother]
  file other _ content := by
    by_cases hne : other = place
    · subst hne
      have hself : (d.set other .directory).at? other = some .directory :=
        at?_set_self d _ fun hnil => by
          rw [hnil, at?_nil] at h
          cases h
      simp [hself, h]
    · rw [at?_set_ne hne]

/-- A path goes on leading where it leads. -/
theorem locate (h : Keeps places d d') (hp : d.locate working p = .ok place) :
    d'.locate working p = .ok place := by
  have hfrom : ∀ (names : List String) (here : Place), d.locateFrom here names = .ok place →
      d'.locateFrom here names = .ok place := by
    intro names
    induction names with
    | nil => exact fun here hok => hok
    | cons name names ih =>
      intro here hok
      rw [locateFrom, Attempt.bind_eq_ok_iff] at hok ⊢
      obtain ⟨_, hhere, hok⟩ := hok
      obtain ⟨_, hname, hok⟩ := Attempt.bind_eq_ok_iff.1 hok
      refine ⟨(), requireDirectory_eq_ok_iff.2 (h.directory _ (requireDirectory_eq_ok_iff.1 hhere)),
        Attempt.bind_eq_ok_iff.2 ⟨(), hname, ih _ hok⟩⟩
  rw [Disk.locate, Attempt.bind_eq_ok_iff] at hp ⊢
  obtain ⟨_, hcheck, hok⟩ := hp
  exact ⟨(), hcheck, hfrom _ _ hok⟩

/-- What is in a file that is left alone can be read as before. -/
theorem read (h : Keeps places d d') (hp : d.read working p = .ok content)
    (hplace : (absolute working p).names ∉ places) : d'.read working p = .ok content := by
  rw [read_eq_ok_iff] at hp ⊢
  obtain ⟨place, hlocate, hfile⟩ := hp
  rw [← eq_of_locate hlocate] at hplace
  exact ⟨place, h.locate hlocate, (h.file place hplace content).2 hfile⟩

end Keeps

/-! ## The operations -/

/-- A file that was put in a place can be read there. -/
theorem read_set_file (h : d.placeToWrite working p = .ok place) (content : String) :
    (d.set place (.file content)).read working p = .ok content := by
  obtain ⟨hlocate, hfree⟩ := placeToWrite_eq_ok_iff.1 h
  have hself : (d.set place (.file content)).at? place = some (.file content) :=
    at?_set_self d _ fun hnil => hfree (by rw [hnil, at?_nil])
  exact read_eq_ok_iff.2 ⟨place, (Keeps.set_file hfree content).locate hlocate, hself⟩

theorem Keeps.of_placeToWrite (h : d.placeToWrite working p = .ok place) (content : String) :
    Keeps {(absolute working p).names} d (d.set place (.file content)) := by
  obtain ⟨hlocate, hfree⟩ := placeToWrite_eq_ok_iff.1 h
  rw [← eq_of_locate hlocate]
  exact .set_file hfree content

/-- Writing to a file changes no other. -/
theorem keeps_write (h : d.write working p content = .ok d') :
    Keeps {(absolute working p).names} d d' := by
  obtain ⟨place, hplace, hset⟩ := Attempt.bind_eq_ok_iff.1 h
  obtain rfl := Except.ok.inj hset
  exact .of_placeToWrite hplace content

/-- How giving a file a new content ends. -/
inductive Overwrites (d : Disk) (device : Device) (working : Place) (p : Path) (content : String) :
    Attempt → Prop
  /-- The file cannot be opened. -/
  | unopened {fault : Fault} (h : d.placeToWrite working p = .error fault) :
      Overwrites d device working p content (d, .error fault)
  /-- The file was opened, and the device stopped. -/
  | broken {d' opened : Disk} {taken : String} (keeps : Keeps {(absolute working p).names} d d')
      (stops : device opened (absolute working p).names content = some taken)
      (read : d'.read working p = .ok taken) :
      Overwrites d device working p content (d', .error .incomplete)
  | whole {d' : Disk} (keeps : Keeps {(absolute working p).names} d d')
      (read : d'.read working p = .ok content) : Overwrites d device working p content (d', .ok ())

/-- **Giving a file a new content** ends in one of these ways. -/
theorem overwrites_overwrite (d : Disk) (device : Device) (working : Place) (p : Path)
    (content : String) :
    Overwrites d device working p content (d.overwrite device working p content) := by
  rw [overwrite]
  cases hplace : d.placeToWrite working p with
  | error fault => exact .unopened hplace
  | ok place =>
    -- once the file is there, it can be opened again, and it holds what was put there last
    have hopened : (d.set place (.file "")).placeToWrite working p = .ok place := by
      obtain ⟨hlocate, hfree⟩ := placeToWrite_eq_ok_iff.1 hplace
      refine placeToWrite_eq_ok_iff.2 ⟨(Keeps.set_file hfree "").locate hlocate, ?_⟩
      rw [at?_set_self d _ fun hnil => hfree (by rw [hnil, at?_nil])]
      simp
    have hkeeps : ∀ text, Keeps {(absolute working p).names} d
        ((d.set place (.file "")).set place (.file text)) := fun text =>
      (Keeps.of_placeToWrite hplace "").trans (Keeps.of_placeToWrite hopened text)
    have hread : ∀ text, ((d.set place (.file "")).set place (.file text)).read working p =
        .ok text := read_set_file hopened
    simp only
    split
    · next taken htaken =>
      rw [eq_of_locate (placeToWrite_eq_ok_iff.1 hplace).1] at htaken
      exact .broken (hkeeps taken) htaken (hread taken)
    · exact .whole (hkeeps content) (hread content)

theorem keeps_makeOne (h : d.makeOne working p = .ok d') : Keeps ∅ d d' := by
  rw [makeOne, Attempt.bind_eq_ok_iff] at h
  obtain ⟨place, -, hset⟩ := h
  split at hset
  · cases hset
  · next hnone =>
    obtain rfl := Except.ok.inj hset
    exact Keeps.set_directory hnone

/-- Making a directory where one may be already. -/
theorem keeps_settled (d : Disk) (working : Place) (p : Path) :
    Keeps ∅ d (d.settled working p (d.makeOne working p)).1 := by
  cases h : d.makeOne working p with
  | ok made => exact keeps_makeOne h
  | error fault => exact .refl _ _

/-- Making directories changes no files, also when it fails on the way. -/
theorem keeps_makeDirectory (d : Disk) (working : Place) (p : Path) :
    Keeps ∅ d (d.makeDirectory working p).1 := by
  rw [makeDirectory]
  induction p.names.reverse with
  | nil => exact keeps_settled _ _ _
  | cons name above ih =>
    have hsettled := keeps_settled d working { root := p.root, names := (name :: above).reverse }
    rw [makeUpwards]
    split
    · revert ih
      rcases d.makeUpwards working p.root above with ⟨made, fault | u⟩
      · exact id
      · exact fun ih => ih.trans (keeps_settled _ _ _)
    · exact hsettled

end Disk
end Entigram

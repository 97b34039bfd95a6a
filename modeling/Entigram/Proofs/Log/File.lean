import Entigram.Log.Logger
import Entigram.Proofs.Disk
import Entigram.Standard.RotatedFile

/-!
# What records change

Records can go to a file.  Adding a line to a log file can change more than that file: a file that
is full is put aside under another name, packed and removed.  Which places a log file has to do with
is its own affair (`LogFile.places`); one that comes with the program has to do with its own file
only (`RotatedFile.places_logFile`).  Sending records changes files there and nothing else in the
surroundings (`Logger.changes_emit`).
-/

set_option autoImplicit false

namespace Entigram

/-- The same surroundings but for files: in these places there can be other ones, and directories
can have been made. -/
structure World.Changes (places : Set Place) (w w' : World) : Prop where
  same : ∃ disk, w' = { w with disk }
  keeps : w.disk.Keeps places w'.disk

namespace World.Changes

variable {places places' : Set Place} {w w' w'' : World}

theorem refl (places : Set Place) (w : World) : Changes places w w := ⟨⟨w.disk, rfl⟩, .refl _ _⟩

theorem trans (h : Changes places w w') (h' : Changes places w' w'') : Changes places w w'' where
  same := by
    obtain ⟨disk, rfl⟩ := h.same
    obtain ⟨disk', rfl⟩ := h'.same
    exact ⟨disk', rfl⟩
  keeps := h.keeps.trans h'.keeps

theorem mono (h : Changes places w w') (hsub : places ⊆ places') : Changes places' w w' :=
  ⟨h.same, h.keeps.mono hsub⟩

theorem of_keeps {disk : Disk} (h : w.disk.Keeps places disk) : Changes places w { w with disk } :=
  ⟨⟨disk, rfl⟩, h⟩

theorem working (h : Changes places w w') : w'.working = w.working := by
  obtain ⟨disk, rfl⟩ := h.same
  rfl

end World.Changes

/-- The places of a log file, seen from a directory: where adding a line can make, change or remove
a file. -/
def LogFile.places (file : LogFile) (working : Place) : Set Place :=
  {place | ∃ d now line content,
    ¬((file.add d working now line).at? place = some (.file content) ↔
      d.at? place = some (.file content))}

theorem LogFile.keeps_add (file : LogFile) (d : Disk) (working : Place) (now : Moment)
    (line : String) : d.Keeps (file.places working) (file.add d working now line) where
  directory := file.add_directory d working now line
  file place hplace content := by
    by_contra hchanged
    exact hplace ⟨d, now, line, content, hchanged⟩

namespace RotatedFile

variable {path : Path} {rotation : Rotation} {d d' : Disk} {working : Place} {now : Moment}
  {line : String}

theorem keeps_withLine (h : withLine path rotation d working now line = .ok d') :
    d.Keeps {(Disk.absolute working path).names} d' := by
  unfold withLine at h
  split at h
  · split at h
    · exact Disk.keeps_write h
    · exact Disk.keeps_write h
  · split at h
    · exact Disk.keeps_write h
    · obtain rfl := Except.ok.inj h
      exact .refl _ _

/-- A log file that starts anew in its place has to do with no other. -/
theorem places_logFile (path : Path) (rotation : Rotation) (working : Place) :
    (logFile path rotation).places working ⊆ {(Disk.absolute working path).names} := by
  rintro place ⟨d, now, line, content, hchanged⟩
  by_contra hother
  refine hchanged ?_
  change ((withLine path rotation d working now line).toOption.getD d).at? place = _ ↔ _
  cases hline : withLine path rotation d working now line with
  | ok d' => exact (keeps_withLine hline).file place hother content
  | error fault => exact Iff.rfl

end RotatedFile

namespace Log
namespace Logger

/-- The places of the log file, if there is one. -/
def places (l : Logger) (working : Place) : Set Place :=
  match l.fileSink with
  | some sink => sink.file.places working
  | none => ∅

theorem changes_record (l : Logger) (w : World) (r : Record) :
    w.Changes (l.places w.working) (l.record w r) := by
  rw [record, places]
  cases l.fileSink with
  | none => exact .refl _ _
  | some sink =>
    simp only
    split
    · exact .of_keeps (sink.file.keeps_add _ _ _ _)
    · exact .refl _ _

/-- **Records change log files** and nothing else. -/
theorem changes_emit (l : Logger) (w : World) (rs : List Record) :
    w.Changes (l.places w.working) (l.emit w rs).1 := by
  rw [emit]
  induction rs generalizing w with
  | nil => exact .refl _ _
  | cons r rs ih =>
    have hfirst := l.changes_record w r
    have hrest := ih (l.record w r)
    rw [hfirst.working] at hrest
    exact hfirst.trans hrest

end Logger
end Log
end Entigram

import LinePatch.Proofs.FileSystem.Growth

/-!
# What creating a file does

A file that is to be created is emptied if it is there, and made with its name if the name is vacant; a
device stays as it is. In each case the path leads to the created node afterwards, and all other paths lead
where they led.

## Main definitions

* `FileSystem.Creates`: the three ways in which an output is created

## Main results

* `FileSystem.createOutput_eq_ok_iff`: an output is created in one of these ways
* `FileSystem.Creates.keepsPaths`, `FileSystem.Creates.openInput`: where paths lead afterwards
* `FileSystem.createOutput_of_openInput`, `FileSystem.createOutput_of_vacant`: which files can be created
-/

namespace LinePatch

namespace FileSystem

/-- Everything that creating the file of a path does: the number of its node, and the system afterwards. -/
inductive Creates (files : FileSystem) (path : String) : NodeId → FileSystem → Prop
  /-- The file that is there is emptied. -/
  | emptied {id contents} (hfollow : files.follow .create path = .ok (.node id))
      (hfile : files.node? id = some (.file contents)) :
      Creates files path id (files.setNode id (.file []))
  | device {id device} (hfollow : files.follow .create path = .ok (.node id))
      (hdevice : files.node? id = some (.device device)) : Creates files path id files
  /-- A file is made, under a free number and with the name that was vacant. -/
  | made {directory parent entries name}
      (hfollow : files.follow .create path = .ok (.vacant directory name))
      (hdirectory : files.directory? directory = some (parent, entries))
      (hlookup : entries.lookup name = none) :
      Creates files path files.nodes.size (files.addNamed directory name (.file [])).2

variable {files next : FileSystem} {path : String} {id other directory : NodeId} {name : String}
  {contents : Bytes}

/-- What is used, and is no directory, is there to be created. -/
theorem follow_create_of_use (h : files.follow .use path = .ok (.node id))
    (hid : files.directory? id = none) : files.follow .create path = .ok (.node id) := by
  obtain ⟨argument, hargument, hleads⟩ := follow_eq_ok_iff.mp h
  exact follow_eq_ok_iff.mpr ⟨argument, hargument, hleads.create hid⟩

/-- What is to be created stands where it would be used. -/
theorem follow_use_of_create {place : Place} (h : files.follow .create path = .ok place) :
    files.follow .use path = .ok place := by
  obtain ⟨argument, hargument, hleads⟩ := follow_eq_ok_iff.mp h
  exact follow_eq_ok_iff.mpr ⟨argument, hargument, hleads.use⟩

theorem exists_of_follow_vacant {purpose : Purpose}
    (h : files.follow purpose path = .ok (.vacant directory name)) :
    ∃ parent entries, files.directory? directory = some (parent, entries) ∧
      entries.lookup name = none := by
  obtain ⟨argument, -, hleads⟩ := follow_eq_ok_iff.mp h
  exact hleads.exists_of_vacant

theorem createOutput_eq_ok_iff :
    files.createOutput path = .ok (id, next) ↔ files.Creates path id next := by
  constructor
  · intro h
    unfold createOutput at h
    split at h
    next => cases h
    next id hfollow =>
      unfold truncate at h
      split at h
      next contents hfile =>
        obtain ⟨rfl, rfl⟩ := Prod.mk.inj (Except.ok.inj h)
        exact .emptied hfollow hfile
      next device hdevice =>
        obtain ⟨rfl, rfl⟩ := Prod.mk.inj (Except.ok.inj h)
        exact .device hfollow hdevice
      next => cases h
    next directory name hfollow =>
      obtain ⟨parent, entries, hdirectory, hlookup⟩ := exists_of_follow_vacant hfollow
      obtain ⟨rfl, rfl⟩ := Prod.mk.inj (Except.ok.inj h)
      exact .made hfollow hdirectory hlookup
  · rintro (⟨hfollow, hfile⟩ | ⟨hfollow, hdevice⟩ | ⟨hfollow, -, -⟩)
    · simp only [createOutput, hfollow, truncate, hfile]
      rfl
    · simp only [createOutput, hfollow, truncate, hdevice]
      rfl
    · simp only [createOutput, hfollow]
      rfl

/-- A regular file that can be read can be emptied. -/
theorem createOutput_of_openInput (hopen : files.openInput path = .ok id)
    (hfile : files.node? id = some (.file contents)) :
    files.createOutput path = .ok (id, files.setNode id (.file [])) := by
  have hid : files.directory? id = none := by simp [directory?, hfile]
  exact createOutput_eq_ok_iff.mpr
    (.emptied (follow_create_of_use (openInput_eq_ok_iff.mp hopen) hid) hfile)

/-- A file can be made wherever a name is vacant. -/
theorem createOutput_of_vacant (h : files.follow .create path = .ok (.vacant directory name)) :
    files.createOutput path = .ok (files.addNamed directory name (.file [])) := by
  obtain ⟨parent, entries, hdirectory, hlookup⟩ := exists_of_follow_vacant h
  exact createOutput_eq_ok_iff.mpr (.made h hdirectory hlookup)

namespace Creates

theorem keepsPaths (h : files.Creates path id next) : files.KeepsPaths next := by
  cases h with
  | emptied _ hfile => exact keepsPaths_setNode hfile []
  | device => exact .refl files
  | made _ hdirectory _ => exact keepsPaths_addNamed hdirectory []

/-- The path leads to what has been created. -/
theorem openInput (h : files.Creates path id next) : next.openInput path = .ok id := by
  have hkeeps := h.keepsPaths
  rw [openInput_eq_ok_iff]
  refine follow_use_of_create ?_
  cases h with
  | emptied hfollow _ => exact hkeeps.follow hfollow (.node _)
  | device hfollow _ => exact hkeeps.follow hfollow (.node _)
  | @made directory parent entries name hfollow hdirectory hlookup =>
    refine hkeeps.follow hfollow (.vacant (directory?_addNamed hdirectory name (.file [])) ?_ ?_)
    · simp [List.lookup_append, hlookup]
    · simp [node?_addNamed_self hdirectory]

/-- Writing to what has been created makes no difference to paths. -/
theorem keepsPaths_extend (h : files.Creates path id next) (bytes : Bytes) :
    files.KeepsPaths (next.extend id bytes) :=
  h.keepsPaths.trans (next.keepsPaths_extend id bytes)

theorem openInput_extend (h : files.Creates path id next) (bytes : Bytes) :
    (next.extend id bytes).openInput path = .ok id :=
  (next.keepsPaths_extend id bytes).openInput h.openInput

/-- What has been created is an empty file, or a device that has not changed. -/
theorem node? (h : files.Creates path id next) :
    next.node? id = some (.file []) ∨
      next = files ∧ ∃ device, files.node? id = some (.device device) := by
  cases h with
  | emptied _ hfile => exact .inl (node?_setNode_self hfile (.file []))
  | device _ hdevice => exact .inr ⟨rfl, _, hdevice⟩
  | made _ hdirectory _ => exact .inl (node?_addNamed_self hdirectory _ (.file []))

/-- The other files are as they were. -/
theorem node?_of_ne (h : files.Creates path id next) (hfile : files.node? other = some (.file contents))
    (hne : other ≠ id) : next.node? other = some (.file contents) := by
  cases h with
  | emptied _ _ => rw [node?_setNode, if_neg hne.symm, hfile]
  | device => exact hfile
  | made _ hdirectory _ =>
    rw [node?_addNamed hdirectory, if_neg, if_neg hne, hfile]
    rintro rfl
    rw [directory?_eq_some_iff, hfile] at hdirectory
    cases hdirectory

end Creates

end FileSystem

end LinePatch

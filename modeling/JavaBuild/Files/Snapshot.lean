import JavaBuild.Files.Disk

/-!
# Disks from files, and back

`Disk.ofFiles` makes the disk that holds given files, the directories above them and a working
directory. `Disk.fileChanges` lists what became of the files of one disk in another: each file
written or replaced, with its new content, and each file removed. Together they carry a build
between a real file system and the disk that it works on.
-/

namespace JavaBuild.Disk

/-- The disk with the directory `cwd` and the files (absolute paths) with their contents, all
written at time `mtime`. A file whose place is taken by a directory is left out. -/
def ofFiles (cwd : String) (files : List (String × ByteArray)) (mtime : Int) : Disk :=
  let start : Disk := (({} : Disk).makeDirs cwd).toOption.getD {}
  files.foldl (fun d (p, data) =>
    match d.makeDirs (Path.parent p) >>= fun d' => d'.writeFile p data mtime with
    | .ok d' => d'
    | .error _ => d) start

/-- The files that `after` writes, replaces or removes with respect to `before`: a written file
with its content, a removed one with none; removals first. -/
def fileChanges (before after : Disk) : List (String × Option ByteArray) :=
  let removed := before.entries.filterMap fun (p, e) =>
    match e, after.find? p with
    | .file .., some (.file ..) => none
    | .file .., _ => some (p, none)
    | .dir, _ => none
  let written := after.entries.filterMap fun (p, e) =>
    match e, before.find? p with
    | .file data _ _, some (.file old _ _) => if old.data == data.data then none else some (p, some data)
    | .file data _ _, _ => some (p, some data)
    | .dir, _ => none
  removed ++ written

end JavaBuild.Disk

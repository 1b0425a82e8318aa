import SyncDir.Library.FileTree
import SyncDir.Utils.SystemCalls

/-!
# The file system of a host

Here the system calls are given a meaning: paths are relative to the directory
in which the server runs and lead through a file tree, and what is transmitted
goes over the connections of the devices and the backups.

`getFiles` prints an entry with three times for each file that it meets, in the
order of the directory; times and order are not in the model, so the text that
is made of a directory is a parameter.
-/

namespace SyncDir

open FileTree

abbrev FileSystem := Tree Bytes Bytes

/-- The components of a path. -/
def moveOf (component : Bytes) : Move Bytes :=
  if component = [] then .empty
  else if component = ascii "." then .dot
  else if component = ascii ".." then .dotdot
  else .name component

def movesOf (path : Bytes) : List (Move Bytes) :=
  (path.splitOn 47).map moveOf

theorem movesOf_append (first second : Bytes) :
    movesOf (first ++ ascii "/" ++ second) = movesOf first ++ movesOf second := by
  have slash : ascii "/" = [47] := rfl
  rw [movesOf, slash, List.append_assoc, List.singleton_append, List.splitOn_append_cons_self,
    List.map_append, movesOf, movesOf]

/-- What the threads of the server work on. -/
structure Host where
  files : FileSystem
  connections : Channel → Connection

def Exception.what : Exception → String
  | runtime_error what => what
  | logic_error what => what

section

variable (cwd : Path Bytes) (getFiles : Directory → Bytes)

/-- What a system call does when it returns, and its answer. -/
def performCall (host : Host) : (systemCall : SystemCall) → systemCall.Answer × Host
  | .openFile path => (openNode host.files cwd (movesOf path), host)
  | .create path =>
      let (opened, files) := write host.files cwd (movesOf path) fun _ => []
      (opened, { host with files })
  | .append path data =>
      let (opened, files) := write host.files cwd (movesOf path) fun old => old.getD [] ++ data
      (opened, { host with files })
  | .remove path =>
      let (removed, files) := remove host.files cwd (movesOf path)
      (removed, { host with files })
  | .rename path new_path =>
      let (renamed, files) := rename host.files cwd (movesOf path) (movesOf new_path)
      (renamed, { host with files })
  | .list path => ((list host.files cwd (movesOf path)).map getFiles, host)
  | .transmit channel action =>
      let (result, connection) := action.on (host.connections channel)
      (result.mapError Exception.what,
        { host with connections := Function.update host.connections channel connection })
  | .sendPushTo _ _ => ((), host)

variable {cwd getFiles} {host : Host} {files : FileSystem} {answer : Bool} {path new_path : Bytes}

theorem performCall_create
    (written : write host.files cwd (movesOf path) (fun _ => []) = (answer, files)) :
    performCall cwd getFiles host (.create path) = (answer, { host with files }) := by
  simp only [performCall, written]
  rfl

theorem performCall_append {data : Bytes}
    (written : write host.files cwd (movesOf path) (fun old => old.getD [] ++ data) =
      (answer, files)) :
    performCall cwd getFiles host (.append path data) = (answer, { host with files }) := by
  simp only [performCall, written]
  rfl

theorem performCall_remove (removed : remove host.files cwd (movesOf path) = (answer, files)) :
    performCall cwd getFiles host (.remove path) = (answer, { host with files }) := by
  simp only [performCall, removed]
  rfl

theorem performCall_rename
    (renamed : rename host.files cwd (movesOf path) (movesOf new_path) = (answer, files)) :
    performCall cwd getFiles host (.rename path new_path) = (answer, { host with files }) := by
  simp only [performCall, renamed]
  rfl

end

end SyncDir

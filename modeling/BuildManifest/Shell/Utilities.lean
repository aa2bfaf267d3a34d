import BuildManifest.Shell.Columns
import BuildManifest.Shell.Conditions
import BuildManifest.Shell.Difference
import BuildManifest.Shell.Digest
import BuildManifest.Shell.Editor
import BuildManifest.Shell.Errands
import BuildManifest.Shell.Search
import BuildManifest.Shell.Settings
import BuildManifest.Shell.Sorting
import BuildManifest.Shell.Writing

/-!
The commands of the system that run no other commands, by their names.
-/

namespace BuildManifest

namespace Shell

/-- The number that a command outside the shell complains with instead of the line
of a script. -/
def plainFault (command : String) (st : State) (status : Nat) (t : Text) : State :=
  let lead := command.toList ++ (": " : Text)
  st.failing status (lead ++ (Text.after? lead t).getD t)

/-- The condition command outside the shell, which complains in its own name. -/
def plainTest (called : Text) (st : State) (arguments : List Text) : State :=
  let name := st.name
  { test called { st with name := [] } arguments with name }

/-- A command of the system that runs no other command. -/
def utility? (command : Text) : Option (State → List Text → State) :=
  match String.ofList command with
  | "true" | "sync" => some fun st _ => st.withStatus 0
  | "false" => some fun st _ => st.withStatus 1
  | "echo" => some plainEcho
  | "printf" => some (printf (plainFault "printf"))
  | "test" | "[" => some (plainTest command)
  | "pwd" => some fun st _ => (st.printLine (physicalPath st)).withStatus 0
  | "kill" => some kill
  | "sleep" => some sleepFor
  | "cat" => some concatenate
  | "cp" => some copy
  | "mv" => some move
  | "rm" => some removeFiles
  | "rmdir" => some removeDirectories
  | "mkdir" => some makeDirectories
  | "touch" => some touch
  | "ls" | "dir" => some listFiles
  | "ln" => some link
  | "link" => some linkFile
  | "unlink" => some unlinkFile
  | "chmod" => some changeMode
  | "chown" | "chgrp" => some (changeOwner command)
  | "head" => some head
  | "tail" => some tail
  | "wc" => some count
  | "tr" => some translate
  | "sort" => some sort
  | "uniq" => some unique
  | "grep" => some (grep 'G')
  | "egrep" => some (grep 'E')
  | "fgrep" => some (grep 'F')
  | "seq" => some sequence
  | "tee" => some tee
  | "cmp" => some compareBytes
  | "diff" => some difference
  | "basename" => some printBaseNames
  | "dirname" => some printDirNames
  | "printenv" => some printEnvironment
  | "uname" => some printSystem
  | "sed" => some edit
  | "readlink" => some readLink
  | "realpath" => some realPath
  | "cut" => some cut
  | "expr" => some reckon
  | "tac" => some reverseLines
  | "rev" => some reverseEach
  | "nl" => some numberLines
  | "paste" => some paste
  | "fold" => some fold
  | "comm" => some compareSorted
  | "join" => some joinLines
  | "od" => some dump
  | "base64" => some base64
  | "yes" => some repeatLine
  | "id" => some printUser
  | "whoami" => some fun st _ => (st.printLine "root").withStatus 0
  | "logname" => some fun st _ => st.failing 1 "logname: no login name"
  | "tty" => some fun st _ => (st.printLine "not a tty").withStatus 1
  | "arch" => some fun st _ => (st.printLine "x86_64").withStatus 0
  | "hostname" => some fun st _ => (st.printLine "localhost").withStatus 0
  | "nproc" => some fun st _ => (st.printLine ['4']).withStatus 0
  | "mktemp" => some makeTemporary
  | "stat" => some printStatus
  | "install" => some install
  | "date" => some printDate
  | "expand" => some expand
  | "unexpand" => some unexpand
  | "truncate" => some truncate
  | "factor" => some printFactors
  | "md5sum" => some (printDigests "md5sum" Digest.md5)
  | "sha1sum" => some (printDigests "sha1sum" Digest.sha1)
  | "sha256sum" => some (printDigests "sha256sum" Digest.sha256)
  | "cksum" => some printChecks
  | _ => none

end Shell

end BuildManifest

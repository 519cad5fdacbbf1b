import CommandShell.Machine.Schedule
import CommandShell.Script.Run
import CommandShell.Tool.Alphabet
import CommandShell.Tool.Arguments
import CommandShell.Tool.Arrangement
import CommandShell.Tool.Cat
import CommandShell.Tool.Clock
import CommandShell.Tool.Column
import CommandShell.Tool.Condition
import CommandShell.Tool.Copying
import CommandShell.Tool.Count
import CommandShell.Tool.Describe
import CommandShell.Tool.Difference
import CommandShell.Tool.Digests
import CommandShell.Tool.Directory
import CommandShell.Tool.Dump
import CommandShell.Tool.Edit.Run
import CommandShell.Tool.Encoding
import CommandShell.Tool.Ends
import CommandShell.Tool.Expression
import CommandShell.Tool.Factors
import CommandShell.Tool.Identity
import CommandShell.Tool.Link
import CommandShell.Tool.List
import CommandShell.Tool.Matching
import CommandShell.Tool.Numbering
import CommandShell.Tool.Ownership
import CommandShell.Tool.Paragraphs
import CommandShell.Tool.Permit
import CommandShell.Tool.Pieces
import CommandShell.Tool.Placement
import CommandShell.Tool.Precedence
import CommandShell.Tool.Printf
import CommandShell.Tool.Quantity
import CommandShell.Tool.Relation
import CommandShell.Tool.Remove
import CommandShell.Tool.Repeat
import CommandShell.Tool.Runner
import CommandShell.Tool.Sections
import CommandShell.Tool.Shuffle
import CommandShell.Tool.Tabs
import CommandShell.Tool.Temporary
import CommandShell.Tool.Touch
import CommandShell.Tool.Transfer
import CommandShell.Tool.Traversal.Run
import CommandShell.Tool.Usage
import CommandShell.Tool.Words

/-!
# The programs of the system

The names under which programs can be executed, and what they do.
-/

namespace CommandShell

open Tool

/-- The programs with their names. -/
def programTable : List (String × (List Bytes → List Bytes → Task)) :=
  [("dash", Script.program),
   ("true", Work.task 1 (constant 0)),
   ("false", Work.task 1 (constant 1)),
   ("echo", Work.task 1 echo),
   ("yes", Work.task 1 yes),
   ("basename", Work.task 1 basename),
   ("dirname", Work.task 1 dirname),
   ("pwd", Work.task 1 pwd),
   ("printenv", Work.task 2 printenv),
   ("whoami", Work.task 1 (fixedLine "root")),
   ("sleep", Work.task 1 sleep),
   ("seq", Work.task 1 seq),
   ("test", Work.task 2 decideCondition),
   ("[", Work.task 2 bracketed),
   ("printf", Work.task 1 printf),
   ("cat", Work.task 1 cat),
   ("tac", Work.task 1 tac),
   ("rev", Work.task 1 rev),
   ("tee", Work.task 1 tee),
   ("head", Work.task 1 head),
   ("tail", Work.task 1 tail),
   ("wc", Work.task 1 wc),
   ("expr", Work.task 3 expr),
   ("ls", Work.task 2 ls),
   ("mkdir", Work.task 1 mkdir),
   ("rmdir", Work.task 1 rmdir),
   ("rm", Work.task 1 rm),
   ("unlink", Work.task 1 unlink),
   ("ln", Work.task 1 ln),
   ("link", Work.task 1 link),
   ("readlink", Work.task 1 readlink),
   ("realpath", Work.task 1 realpath),
   ("touch", Work.task 1 touch),
   ("mkfifo", Work.task 1 mkfifo),
   ("truncate", Work.task 1 truncate),
   ("chmod", Work.task 1 chmod),
   ("cp", Work.task 1 cp),
   ("mv", Work.task 1 mv),
   ("env", Work.task 125 env),
   ("nohup", Work.task 125 nohup),
   ("nice", Work.task 125 nice),
   ("timeout", Work.task 125 timeout),
   ("xargs", Work.task 1 xargs),
   ("which", Work.task 1 which),
   ("uname", Work.task 1 uname),
   ("arch", Work.task 1 (fixedLine "x86_64")),
   ("id", Work.task 1 identity),
   ("groups", Work.task 1 groups),
   ("tty", Work.task 3 tty),
   ("logname", Work.task 1 logname),
   ("grep", Work.task 2 (grep "G")),
   ("egrep", Work.task 2 (grep "E")),
   ("fgrep", Work.task 2 (grep "F")),
   ("sed", Work.task 4 sed),
   ("cut", Work.task 1 cut),
   ("paste", Work.task 1 paste),
   ("fold", Work.task 1 fold),
   ("sort", Work.task 2 sort),
   ("uniq", Work.task 1 uniq),
   ("comm", Work.task 1 comm),
   ("tr", Work.task 1 tr),
   ("nl", Work.task 1 nl),
   ("find", Work.task 1 findFiles),
   ("cmp", Work.task 2 cmp),
   ("diff", Work.task 2 diff),
   ("od", Work.task 1 od),
   ("md5sum", Work.task 1 (Digests.tool Digests.md5)),
   ("sha1sum", Work.task 1 (Digests.tool Digests.sha1)),
   ("sha224sum", Work.task 1 (Digests.tool Digests.sha224)),
   ("sha256sum", Work.task 1 (Digests.tool Digests.sha256)),
   ("sha384sum", Work.task 1 (Digests.tool Digests.sha384)),
   ("sha512sum", Work.task 1 (Digests.tool Digests.sha512)),
   ("b2sum", Work.task 1 (Digests.tool Digests.blake2b)),
   ("cksum", Work.task 1 cksum),
   ("sum", Work.task 1 sum),
   ("base64", Work.task 1 base64),
   ("base32", Work.task 1 base32),
   ("basenc", Work.task 1 basenc),
   ("stat", Work.task 1 stat),
   ("date", Work.task 1 date),
   ("dd", Work.task 1 dd),
   ("split", Work.task 1 split),
   ("join", Work.task 1 join),
   ("factor", Work.task 1 factor),
   ("expand", Work.task 1 expand),
   ("unexpand", Work.task 1 unexpand),
   ("chown", Work.task 1 chown),
   ("chgrp", Work.task 1 chgrp),
   ("sync", Work.task 1 sync),
   ("mktemp", Work.task 1 mktemp),
   ("tsort", Work.task 1 tsort),
   ("du", Work.task 1 du),
   ("getopt", Work.task 3 getopt),
   ("setsid", Work.task 1 setsid),
   ("flock", Work.task 1 flock),
   ("install", Work.task 1 install),
   ("fmt", Work.task 1 fmt),
   ("csplit", Work.task 1 csplit),
   ("shuf", Work.task 1 shuf),
   ("numfmt", Work.task 1 numfmt),
   ("dir", Work.task 2 dir),
   ("vdir", Work.task 2 vdir),
   ("rgrep", Work.task 2 rgrep)]

/-- How the programs of the system run. -/
def programs : Programs := fun image environment =>
  match programTable.lookup image.program with
  | some program => program image.args environment
  | none => .exit 127

end CommandShell

import BuildManifest.Shell.Files
import BuildManifest.Shell.Options
import BuildManifest.Shell.State

/-!
Small commands of the system: those that wait, and those that tell the time, the
user, the machine or the environment. The clock starts at a fixed moment and goes on
only while a command sleeps.
-/

namespace BuildManifest

namespace Shell

/-- Milliseconds of a duration in seconds, minutes, hours or days. -/
def milliseconds? (t : Text) : Option Nat :=
  let (unit, body) := match t.reverse with
    | 's' :: rest => (1000, rest.reverse)
    | 'm' :: rest => (60000, rest.reverse)
    | 'h' :: rest => (3600000, rest.reverse)
    | 'd' :: rest => (86400000, rest.reverse)
    | _ => (1000, t)
  let body := if body.head? = some '+' then body.tail else body
  let whole := body.takeWhile Char.isDigit
  let fraction := body.dropWhile Char.isDigit
  let digits := match fraction with
    | '.' :: rest => rest
    | _ => []
  let wellFormed := (fraction.isEmpty || fraction.head? = some '.') && digits.all Char.isDigit &&
    !(whole ++ digits).isEmpty
  if body = ("inf" : Text) || body = ("infinity" : Text) then some (Nat.pow 10 15)
  else if wellFormed then
    some (((digitsOf (whole ++ digits)).1 * unit + Nat.pow 10 digits.length - 1) /
      Nat.pow 10 digits.length)
  else none

def sleepFor (st : State) (arguments : List Text) : State :=
  withOptions "sleep" 1 [] [] arguments st fun o st =>
    match o.operands with
    | [] => missingOperand st "sleep" "missing operand"
    | operands =>
      match operands.find? fun t => (milliseconds? t).isNone with
      | some t => misuse st "sleep" 1 (("invalid time interval " : Text) ++ quotedName t)
      | none =>
        (st.sleep ((operands.filterMap milliseconds?).foldl (· + ·) 0)).withStatus 0

/-- The moment at which the clock starts, in seconds. -/
def clockStart : Nat := 1700000000

/-- The day of the calendar that comes so many days after the first of 1970: the
year, the month and the day in it. -/
def calendarDay (days : Nat) : Nat × Nat × Nat :=
  let z := days + 719468
  let era := z / 146097
  let inEra := z % 146097
  let yearOfEra := (inEra - inEra / 1460 + inEra / 36524 - inEra / 146096) / 365
  let dayOfYear := inEra - (365 * yearOfEra + yearOfEra / 4 - yearOfEra / 100)
  let m := (5 * dayOfYear + 2) / 153
  let day := dayOfYear - (153 * m + 2) / 5 + 1
  let month := if m < 10 then m + 3 else m - 9
  (yearOfEra + era * 400 + (if month ≤ 2 then 1 else 0), month, day)

def isLeapYear (y : Nat) : Bool := (y % 4 = 0 && y % 100 ≠ 0) || y % 400 = 0

def daysBefore (year month day : Nat) : Nat :=
  let lengths := [31, if isLeapYear year then 29 else 28, 31, 30, 31, 30, 31, 31, 30, 31, 30, 31]
  (lengths.take (month - 1)).foldl (· + ·) 0 + (day - 1)

def dayNames : List String :=
  ["Sunday", "Monday", "Tuesday", "Wednesday", "Thursday", "Friday", "Saturday"]

def monthNames : List String :=
  ["January", "February", "March", "April", "May", "June", "July", "August", "September",
    "October", "November", "December"]

/-- A moment, in seconds, as a format asks for it. -/
def dateText (seconds : Nat) : (fuel : Nat) → Text → Text
  | 0, _ => []
  | _ + 1, [] => []
  | fuel + 1, '%' :: c :: rest =>
    let two (n : Nat) : Text := padLeftWith '0' 2 (Text.ofNat n)
    let (year, month, day) := calendarDay (seconds / 86400)
    let hour := seconds / 3600 % 24
    let minute := seconds / 60 % 60
    let weekday := (seconds / 86400 + 4) % 7
    let twelve := if hour % 12 = 0 then 12 else hour % 12
    let name (names : List String) (i : Nat) : Text := (names[i]?.map String.toList).getD []
    let again (format : Text) : Text := dateText seconds fuel format
    let t : Text := match c with
      | 'Y' => Text.ofNat year
      | 'y' => two (year % 100)
      | 'C' => two (year / 100)
      | 'm' => two month
      | 'd' => two day
      | 'e' => padLeftWith ' ' 2 (Text.ofNat day)
      | 'H' => two hour
      | 'k' => padLeftWith ' ' 2 (Text.ofNat hour)
      | 'I' => two twelve
      | 'l' => padLeftWith ' ' 2 (Text.ofNat twelve)
      | 'M' => two minute
      | 'S' => two (seconds % 60)
      | 's' => Text.ofNat seconds
      | 'N' => "000000000"
      | 'j' => padLeftWith '0' 3 (Text.ofNat (daysBefore year month day + 1))
      | 'a' => (name dayNames weekday).take 3
      | 'A' => name dayNames weekday
      | 'b' | 'h' => (name monthNames (month - 1)).take 3
      | 'B' => name monthNames (month - 1)
      | 'p' => if hour < 12 then "AM" else "PM"
      | 'P' => if hour < 12 then "am" else "pm"
      | 'u' => Text.ofNat (if weekday = 0 then 7 else weekday)
      | 'w' => Text.ofNat weekday
      | 'F' => again "%Y-%m-%d"
      | 'T' | 'X' => again "%H:%M:%S"
      | 'R' => again "%H:%M"
      | 'r' => again "%I:%M:%S %p"
      | 'D' | 'x' => again "%m/%d/%y"
      | 'c' => again "%a %b %e %H:%M:%S %Y"
      | 'Z' => "UTC"
      | 'z' => "+0000"
      | 'n' => ['\n']
      | 't' => ['\t']
      | '%' => ['%']
      | c => ['%', c]
    t ++ dateText seconds fuel rest
  | fuel + 1, c :: rest => c :: dateText seconds fuel rest
where
  /-- Fills up to a width from the left. -/
  padLeftWith (filler : Char) (width : Nat) (t : Text) : Text :=
    List.replicate (width - t.length) filler ++ t

def printDate (st : State) (arguments : List Text) : State :=
  withOptions "date" 1 "ud:IRr:" [("utc", 'u'), ("date", 'd'), ("iso-8601", 'I')] arguments st
    fun o st =>
      let now := clockStart + st.slept / 1000
      let moment? : Option Nat := match o.value? 'd' with
        | none => some now
        | some ('@' :: n) => natural? n
        | some t => if t.isEmpty || t = ("now" : Text) then some now else none
      match moment?, o.operands with
      | none, _ =>
        st.failing 1 (("date: invalid date " : Text) ++ quotedName ((o.value? 'd').getD []))
      | some n, ('+' :: format) :: _ => st.printLine (dateText n (4 * format.length + 40) format)
      | some n, [] =>
        let format : Text := if o.has 'I' then "%F"
          else if o.has 'R' then "%a, %d %b %Y %T %z" else "%a %b %e %T %Z %Y"
        st.printLine (dateText n 100 format)
      | some _, t :: _ => st.failing 1 (("date: invalid date " : Text) ++ quotedName t)

def printSystem (st : State) (arguments : List Text) : State :=
  withOptions "uname" 1 "asnrvmpio" [("all", 'a'), ("kernel-name", 's'), ("machine", 'm')]
    arguments st fun o st =>
      let parts : List (Char × String) := [('s', "Linux"), ('n', "localhost"), ('r', "6.1.0"),
        ('v', "#1 SMP"), ('m', "x86_64"), ('p', "x86_64"), ('i', "x86_64"), ('o', "GNU/Linux")]
      let chosen := if o.has 'a' then parts
        else if o.given.isEmpty then parts.take 1
        else parts.filter fun p => o.has p.1
      st.printLine (Text.joined [' '] (chosen.map fun p => p.2.toList))

def printUser (st : State) (arguments : List Text) : State :=
  withOptions "id" 1 "ugGnr" [("user", 'u'), ("group", 'g'), ("groups", 'G'), ("name", 'n')]
    arguments st fun o st =>
      if o.has 'u' || o.has 'g' || o.has 'G' then st.printLine (if o.has 'n' then "root" else "0")
      else if o.has 'n' || o.has 'r' then
        st.failing 1 "id: cannot print only names or real IDs in default format"
      else st.printLine "uid=0(root) gid=0(root) groups=0(root)"

def printEnvironment (st : State) (arguments : List Text) : State :=
  match arguments with
  | [] => (st.print (st.environment.flatMap fun v => v.1 ++ '=' :: v.2 ++ ['\n'])).withStatus 0
  | names =>
    names.foldl (fun st name =>
      match st.environment.lookup name with
      | some v => st.printLine v
      | none => st.withStatus 1) (st.withStatus 0)

def factorsFrom : (fuel : Nat) → (d n : Nat) → List Nat
  | 0, _, n => if n > 1 then [n] else []
  | fuel + 1, d, n =>
    if n ≤ 1 then []
    else if d * d > n then [n]
    else if n % d = 0 then d :: factorsFrom fuel d (n / d)
    else factorsFrom fuel (d + 1) n

def printFactors (st : State) (arguments : List Text) : State :=
  arguments.foldl (fun st t =>
    match natural? t with
    | some n =>
      let factors := (factorsFrom 1000000 2 n).flatMap fun f => ' ' :: Text.ofNat f
      st.printLine (Text.ofNat n ++ ':' :: factors)
    | none =>
      st.failing 1 (("factor: " : Text) ++ quotedName t ++ (" is not a valid positive integer" : Text)))
    (st.withStatus 0)

def unlinkFile (st : State) (arguments : List Text) : State :=
  match arguments with
  | [p] =>
    match st.findSelf p with
    | .ok (.found _ (.dir _)) =>
      st.failing 1 (("unlink: cannot unlink " : Text) ++ quotedName p ++
        (": Is a directory" : Text))
    | .ok (.found location _) => (st.removeAt location).withStatus 0
    | .ok (.vacant _ _ _) => st.failing 1 (("unlink: cannot unlink " : Text) ++ quotedName p ++
        (": No such file or directory" : Text))
    | .error e =>
      st.failing 1 (("unlink: cannot unlink " : Text) ++ quotedName p ++ (": " : Text) ++ reason e)
  | [] => missingOperand st "unlink" "missing operand"
  | _ :: t :: _ => misuse st "unlink" 1 (("extra operand " : Text) ++ quotedName t)

end Shell

end BuildManifest

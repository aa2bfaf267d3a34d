import BuildManifest.Shell.Wildcard

/-!
Words whose pieces have been filled in. What was filled in without quotes is cut
where a separator stands: blanks that separate count as one however many there are,
while any other separator ends a word of its own. What the script spells itself is
never cut.
-/

namespace BuildManifest

namespace Shell

/-- An element of a word whose pieces have been filled in. -/
inductive Atom where
  | char (c : Char) (quoted : Bool)
  /-- A character that was filled in, where the word may be cut. -/
  | loose (c : Char)
  /-- The sign that something was quoted here, so that the word is one even if it
  is empty. -/
  | quotes
  /-- A place where the word is cut, and what stands there if it is not. -/
  | cut (joint : Text)
  /-- The sign that there was nothing to quote. -/
  | absent

def separators (st : State) : Text := (st.lookup "IFS").getD " \t\n"

def isWhite (c : Char) : Bool := c = ' ' || c = '\t' || c = '\n'

/-- How a word is going on: within it, or behind a separator that blanks may still
add to, or behind one that is complete. -/
inductive Gap where
  | none
  | white
  | complete
  deriving DecidableEq

/-- The words cut so far, the last one first, and the one that is being read, read
backwards. -/
structure Cutting where
  done : List Marked
  current : Marked
  isWord : Bool
  cancelled : Bool
  gap : Gap

namespace Cutting

def start : Cutting := ⟨[], [], false, false, .complete⟩

def inWord (w : Cutting) : Bool := !w.current.isEmpty || (w.isWord && !w.cancelled)

def finish (w : Cutting) (gap : Gap) : Cutting :=
  ⟨if w.inWord then w.current.reverse :: w.done else w.done, [], false, false,
    if w.inWord then gap else w.gap⟩

def push (w : Cutting) (c : Char) (quoted : Bool) : Cutting :=
  { w with current := (c, quoted) :: w.current, isWord := true, gap := .none }

def add (ifs : Text) (w : Cutting) : Atom → Cutting
  | .char c quoted => w.push c quoted
  | .quotes => { w with isWord := true, gap := .none }
  | .absent => { w with cancelled := true }
  | .cut _ => { w.finish .complete with gap := .complete }
  | .loose c =>
    if !ifs.contains c then w.push c false
    else if isWhite c then w.finish .white
    else if w.inWord then w.finish .complete
    else if w.gap = .white then { w with gap := .complete }
    else { w with done := [] :: w.done, gap := .complete }

end Cutting

def wordsOf (ifs : Text) (atoms : List Atom) : List Marked :=
  (((atoms.foldl (Cutting.add ifs) Cutting.start).finish .complete).done).reverse

def textOfAtoms (atoms : List Atom) : Text :=
  atoms.flatMap fun a => match a with
    | .char c _ | .loose c => [c]
    | .cut joint => joint
    | .quotes | .absent => []

def patternOfAtoms (atoms : List Atom) : Marked :=
  atoms.flatMap fun a => match a with
    | .char c quoted => [(c, quoted)]
    | .loose c => [(c, false)]
    | .cut joint => joint.map (·, true)
    | .quotes | .absent => []

def atomsOf (quoted : Bool) (t : Text) : List Atom :=
  if quoted then .quotes :: t.map (.char · true) else t.map .loose

/-- Atoms of which those that the script spells may be cut as well. -/
def loosened (atoms : List Atom) : List Atom :=
  atoms.map fun a => match a with
    | .char c false => .loose c
    | a => a

/-- Takes from a value what fits a pattern, at its front or at its end, as little
or as much as can be. -/
def takeOff (atEnd longest : Bool) (pattern : Marked) (value : Text) : Text :=
  let parts := partsOf (pattern.length + 1) pattern
  let sizes := List.range (value.length + 1)
  let part (n : Nat) : Text := if atEnd then value.drop (value.length - n) else value.take n
  let rest (n : Nat) : Text := if atEnd then value.take (value.length - n) else value.drop n
  match (if longest then sizes.reverse else sizes).find? fun n => fitsParts parts (part n) with
  | some n => rest n
  | none => value

/-- The home directory that a name after a tilde stands for. -/
def homeOf? (st : State) (name : Text) : Option Text :=
  if name.isEmpty then st.lookup "HOME"
  else if name = ("root" : Text) then some "/root"
  else none

/-- A text in which a tilde at the front is replaced, if it is a whole name up to a
slash, to the end of the word or, in an assignment, to a colon. -/
def tildePieces (st : State) (inAssignment isLast : Bool) (t : Text) : Option (List Piece) :=
  match t with
  | '~' :: body =>
    let ends (c : Char) : Bool := c = '/' || (inAssignment && c = ':')
    let name := body.takeWhile fun c => !ends c
    let rest := body.drop name.length
    if rest.isEmpty && !isLast then none
    else (homeOf? st name).map fun home =>
      (.text home true) :: (if rest.isEmpty then [] else [.text rest false])
  | _ => none

/-- A word whose tilde at the front has been replaced. -/
def withHome (st : State) (w : Word) : Word :=
  match w with
  | .text t false :: rest =>
    match tildePieces st false rest.isEmpty t with
    | some ps => ps ++ rest
    | none => w
  | w => w

/-- The value of an assignment, in which a tilde may also stand after a colon. -/
def withHomes (st : State) (w : Word) : Word :=
  let parts (t : Text) : List Text := Text.pieces ':' t
  let rec spread (atFront : Bool) : Word → Word
    | [] => []
    | .text t false :: rest =>
      let ts := parts t
      let last := ts.length - 1
      let one (i : Nat) (t : Text) : List Piece :=
        let isLast := i < last || rest.isEmpty
        let ps := if i = 0 && !atFront then [.text t false]
          else (tildePieces st true isLast t).getD [.text t false]
        if i < last then ps ++ [.text [':'] false] else ps
      ((List.range ts.length).zip ts).flatMap (fun (i, t) => one i t) ++
        spread (ts.getLast? = some [] && ts.length > 1) rest
    | p :: rest => p :: spread false rest
  if w.any fun p => match p with
      | .text t false => t.contains '~'
      | _ => false
  then spread true w else w

/-- Cuts what separates the fields of a line off its front. -/
def dropSeparator (ifs : Text) (m : Marked) : Marked :=
  let white (c : Char × Bool) : Bool := !c.2 && ifs.contains c.1 && isWhite c.1
  let m := m.dropWhile white
  match m with
  | (c, false) :: rest => if ifs.contains c then rest.dropWhile white else m
  | m => m

/-- Shares the fields of a line among so many variables; the last gets what is
left. -/
def share (ifs : Text) : (count : Nat) → Marked → List Text
  | 0, _ => []
  | count + 1, m =>
    let apart (c : Char × Bool) : Bool := !c.2 && ifs.contains c.1
    let field := m.takeWhile fun c => !apart c
    let rest := dropSeparator ifs (m.drop field.length)
    if count = 0 && !rest.isEmpty then
      [Marked.text (m.reverse.dropWhile fun c => apart c && isWhite c.1).reverse]
    else Marked.text field :: share ifs count rest

/-- The fields of a line without the blanks at its front. -/
def fieldsOf (ifs : Text) (count : Nat) (m : Marked) : List Text :=
  share ifs count (m.dropWhile fun c => !c.2 && ifs.contains c.1 && isWhite c.1)

end Shell

end BuildManifest

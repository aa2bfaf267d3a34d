import BuildManifest.Shell.State

/-!
Redirections: how a stream of a shell is made to lead to a file, to where another
stream leads, to a text, or to nothing.
-/

namespace BuildManifest

namespace Shell

/-- What the shell calls the reason a file cannot be opened. -/
def openingReason (writes : Bool) (e : SystemError) : Text :=
  if e = .noSuchFile || e = .notDirectory then
    (if writes then "Directory nonexistent" else "No such file")
  else reason e

/-- Whether a path names a file that may not be overwritten. -/
def isProtected (st : State) (p : Path) : Bool :=
  st.options.contains 'C' && (State.specialFile? p).isNone && (State.streamPath? p).isNone &&
    match st.find p with
    | .ok (.found _ (.file _ _)) => true
    | _ => false

/-- Makes a stream lead to what a target names; the answer says whether it could. -/
def redirect (st : State) (stream : Nat) (opening : Opening) (target : Text) : State × Bool :=
  match opening with
  | .document =>
    let (i, st) := st.add (State.reading target)
    (st.lead stream i, true)
  | .duplicate =>
    if target = ['-'] then (st.close stream, true)
    else
      match natural? target with
      | none => (st.abort "Syntax error: Bad fd number", false)
      | some n =>
        match st.streams.lookup n with
        | some i => (st.lead stream i, true)
        | none => (st.shellFault 2 (target ++ (": Bad file descriptor" : Text)), false)
  | opening =>
    let writes := opening ≠ .read
    let fault (why : Text) : State × Bool :=
      (st.shellFault 2 ((if writes then ("cannot create " : Text) else "cannot open ") ++ target ++
        (": " : Text) ++ why), false)
    if opening = .write && isProtected st target then fault "File exists"
    else
      match st.openFile target opening with
      | .error e => fault (openingReason writes e)
      | .ok (i, st) => (st.lead stream i, true)

/-- Whether more has been written for another command than that will ever read. -/
def overflows (st : State) : Bool :=
  match st.openedAt? 1 with
  | some (_, ⟨.collected _, position, _, _, _⟩) => position > 1048576
  | _ => false

end Shell

end BuildManifest

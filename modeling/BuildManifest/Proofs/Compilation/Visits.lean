import BuildManifest.Compilation
import BuildManifest.Proofs.Session.Agreement

/-!
What a walk sees of the rules. It asks of no path whether it is excluded but of those that it comes
to, the root and the members of the directories it lists. So rules that say the same of all these
paths are as good as each other: the same files are compiled in the same order and with the same
result.
-/

namespace BuildManifest.Recipe

open BuildManifest.Action (Agree)

/-- The paths, and their kinds, that a walk from a root may come to, whatever the commands on its
way have done. Only the root is entered if it is a link. -/
inductive MayVisit (executor : Executor) (w : World) (root : Path) : Path → Kind → Prop
  | root (kind : Kind) : MayVisit executor w root root kind
  | entry {p : Path} {w' : World} {entries : List (Text × Kind)} {e : Text × Kind}
      (hp : MayVisit executor w root p .dir) (hw : w.Follows executor w')
      (hlist : w'.list p = .ok entries) (he : e ∈ entries) :
      MayVisit executor w root (Path.join p e.1) e.2

variable {executor : Executor} {w : World} {r : Recipe} {x y : Exclusions} {root p : Path}

theorem agree_compile (template : Text) (file : Path) :
    Agree executor w (r.compile executor template file) (r.compile executor template file) := by
  have hrender : Agree executor w (r.render template file) (r.render template file) :=
    (Action.agree_expand _ _ _).bind fun _ => Action.agree_pure _
  refine hrender.bind fun command => (Action.agree_say _).bind fun _ => ?_
  refine (Action.agree_call command).bind fun code => ?_
  split
  · exact (Action.agree_say _).bind fun _ => Action.agree_fail _
  · exact Action.agree_pure ()

theorem agree_compileFile (file : Path) :
    Agree executor w (r.compileFile executor file) (r.compileFile executor file) := by
  rw [compileFile]
  split
  · exact Action.agree_pure 0
  · exact (agree_compile _ file).bind fun _ => Action.agree_pure 1

/-- What is done for one member after the other is the same if it is for each of them. -/
theorem agree_total {α : Type} {count count' : α → Action Nat} {l : List α}
    (h : ∀ a ∈ l, Agree executor w (count a) (count' a)) :
    Agree executor w (total count l) (total count' l) := by
  induction l with
  | nil => exact Action.agree_pure 0
  | cons a l ih =>
      rw [List.forall_mem_cons] at h
      exact h.1.bind fun n => (ih h.2).bind fun m => Action.agree_pure (n + m)

theorem agree_unless {a b : Action Nat} {skip skip' : Bool} (hskip : skip = skip')
    (h : Agree executor w a b) :
    Agree executor w (if skip then pure 0 else a) (if skip' then pure 0 else b) := by
  subst hskip
  cases skip with
  | true => exact Action.agree_pure 0
  | false => exact h

/-- The members of a directory are paths that the walk may come to. -/
theorem agree_list {enter enter' : List (Text × Kind) → Action Nat}
    (hp : MayVisit executor w root p .dir)
    (h : ∀ entries, (∀ e ∈ entries, MayVisit executor w root (Path.join p e.1) e.2) →
      Agree executor w (enter entries) (enter' entries)) :
    Agree executor w
      (Action.ask (·.list p) >>= fun listed =>
        match listed with
        | .error e => Action.fail (.io (.walking p e))
        | .ok entries => enter entries)
      (Action.ask (·.list p) >>= fun listed =>
        match listed with
        | .error e => Action.fail (.io (.walking p e))
        | .ok entries => enter' entries) := by
  refine Agree.ask_bind fun w' hw => ?_
  cases hlist : w'.list p with
  | error e => exact Action.agree_fail _
  | ok entries => exact h entries fun e he => .entry hp hw hlist he

theorem agree_visit_link (hxy : x.excludes p = y.excludes p) (depth : Nat) :
    Agree executor w (visit executor r x depth p .link) (visit executor r y depth p .link) := by
  rw [visit, visit]
  refine agree_unless hxy ((Action.agree_ask _).bind fun present => ?_)
  cases present with
  | true => exact agree_compileFile p
  | false => exact Action.agree_pure 0

/-- Rules that agree on all that a walk may come to make it do the same. -/
theorem agree_visit {kind : Kind}
    (hxy : ∀ p kind, MayVisit executor w root p kind → x.excludes p = y.excludes p)
    (hp : MayVisit executor w root p kind) (depth : Nat) :
    Agree executor w (visit executor r x depth p kind) (visit executor r y depth p kind) := by
  induction depth generalizing p kind with
  | zero =>
      cases kind with
      | file =>
          rw [visit, visit]
          exact agree_unless (hxy p _ hp) (agree_compileFile p)
      | link => exact agree_visit_link (hxy p _ hp) 0
      | dir =>
          rw [visit, visit]
          exact agree_unless (hxy p _ hp) (agree_list hp fun _ _ => Action.agree_fail _)
  | succ depth ih =>
      cases kind with
      | file =>
          rw [visit, visit]
          exact agree_unless (hxy p _ hp) (agree_compileFile p)
      | link => exact agree_visit_link (hxy p _ hp) (depth + 1)
      | dir =>
          rw [visit, visit]
          refine agree_unless (hxy p _ hp) (agree_list hp fun entries hentries => ?_)
          exact agree_total fun e he => ih (hentries e he)

theorem agree_visitLink
    (hxy : ∀ p kind, MayVisit executor w root p kind → x.excludes p = y.excludes p)
    (depth : Nat) :
    Agree executor w (visitLink executor r x depth root) (visitLink executor r y depth root) := by
  rw [visitLink, visitLink]
  refine (Action.agree_ask _).bind fun found => ?_
  split
  · exact Action.agree_fail _
  · exact Action.agree_fail _
  · refine agree_list (.root .dir) fun entries hentries => ?_
    exact agree_total fun e he => agree_visit hxy (hentries e he) depth
  · exact agree_visit_link (hxy root .link (.root .link)) depth

/-- Rules that say the same of all the paths a walk may come to make no difference to it. -/
theorem agree_compileTree (r : Recipe)
    (hxy : ∀ p kind, MayVisit executor w root p kind → x.excludes p = y.excludes p) :
    Agree executor w (r.compileTree executor x root) (r.compileTree executor y root) := by
  rw [compileTree, compileTree]
  refine (Action.agree_ask _).bind fun kind => ?_
  have htold : ∀ n, Agree executor w
      (Action.say (("* done " : Text) ++ Text.ofNat n ++ (" in " : Text) ++ root) >>= fun _ =>
        pure n)
      (Action.say (("* done " : Text) ++ Text.ofNat n ++ (" in " : Text) ++ root) >>= fun _ =>
        pure n) :=
    fun n => (Action.agree_say _).bind fun _ => Action.agree_pure n
  dsimp only
  split
  · exact (Action.agree_fail _).bind htold
  · exact (agree_visitLink hxy _).bind htold
  · exact (agree_visit hxy (.root _) _).bind htold

end BuildManifest.Recipe

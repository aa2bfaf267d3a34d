import BuildManifest.Proofs.Compilation.Selection
import BuildManifest.Proofs.Session.Issuing

/-!
A walk compiles the files that it comes by, one after the other. As long as the
commands leave the files alone, it makes no difference whether the tree is walked
between the commands or all of its files are known beforehand.
-/

namespace BuildManifest.Recipe

open World (SameFiles kindOf_of_find)
open BuildManifest.Action (KeepsFiles Issues)

section

variable {α β : Type} {w : World}

theorem total_append (count : α → Action Nat) (l l' : List α) :
    total count (l ++ l') =
      total count l >>= fun n => total count l' >>= fun m => pure (n + m) := by
  induction l with
  | nil => simp only [List.nil_append, total, pure_bind, Nat.zero_add, bind_pure]
  | cons a l ih => simp only [List.cons_append, total, ih, bind_assoc, pure_bind, Nat.add_assoc]

theorem total_map (count : β → Action Nat) (f : α → β) (l : List α) :
    total count (l.map f) = total (fun a => count (f a)) l := by
  induction l with
  | nil => rfl
  | cons a l ih => rw [List.map_cons, total, total, ih]

theorem total_flatMap (count : β → Action Nat) (f : α → List β) (l : List α) :
    total count (l.flatMap f) = total (fun a => total count (f a)) l := by
  induction l with
  | nil => rfl
  | cons a l ih => rw [List.flatMap_cons, total_append, total, ih]

theorem total_singleton (count : α → Action Nat) (a : α) : total count [a] = count a := by
  simp [total]

theorem keepsFiles_total {count : α → Action Nat} (h : ∀ a, KeepsFiles (count a))
    (l : List α) : KeepsFiles (total count l) := by
  induction l with
  | nil => exact Action.keepsFiles_pure 0
  | cons a l ih => exact (h a).bind fun _ => ih.bind fun _ => Action.keepsFiles_pure _

/-- Where the files stay as they are, only what the members do with these files matters. -/
theorem total_congr {count count' : α → Action Nat} {l : List α}
    (hcount : ∀ a ∈ l, ∀ s, s.world.SameFiles w → count a s = count' a s)
    (hkeeps : ∀ a, KeepsFiles (count' a)) {s : Session} (hs : s.world.SameFiles w) :
    total count l s = total count' l s := by
  induction l generalizing s with
  | nil => rfl
  | cons a l ih =>
      rw [total, total, Action.bind_apply, Action.bind_apply,
        hcount a List.mem_cons_self s hs]
      have hfirst := hkeeps a s
      cases hrun : count' a s with
      | mk result s' =>
          rw [hrun] at hfirst
          cases result with
          | error e => rfl
          | ok n =>
              have hrest := ih (fun b hb => hcount b (List.mem_cons_of_mem a hb))
                (hfirst.trans hs)
              simp only [Action.bind_apply, hrest]

end

section

variable {executor : Executor} {r : Recipe} {x : Exclusions} {w : World} {depth : Nat}
  {p root : Path} {here : Location} {n : Node} {entries : List (Text × Node)} {s : Session}

theorem keepsFiles_compileFile (hexec : ∀ command w, (executor command w).2.SameFiles w)
    (file : Path) : KeepsFiles (r.compileFile executor file) := by
  rw [compileFile]
  cases pattern? r.patterns file with
  | none => exact Action.keepsFiles_pure 0
  | some found =>
      refine KeepsFiles.bind ?_ fun _ => Action.keepsFiles_pure 1
      refine KeepsFiles.bind ?_ fun command => ?_
      · exact (Action.keepsFiles_expand _ _ _).bind fun _ => Action.keepsFiles_pure _
      · refine (Action.keepsFiles_say _).bind fun _ => ?_
        refine (Action.keepsFiles_call (hexec command)).bind fun code => ?_
        split
        · exact (Action.keepsFiles_say _).bind fun _ => Action.keepsFiles_fail _
        · exact Action.keepsFiles_pure ()

/-- Compiling files that are given by the names that lead to them from a path. -/
def compileBelow (executor : Executor) (r : Recipe) (p : Path) (files : List (List Text)) :
    Action Nat :=
  total (fun names => r.compileFile executor (Path.descend p names)) files

theorem compileBelow_nil (p : Path) : r.compileBelow executor p [] = pure 0 := rfl

/-- What names lead to is given by their first member and the rest. -/
theorem compileBelow_filesAmong (entries : List (Text × Kind)) :
    r.compileBelow executor p (w.filesAmong x depth p entries) =
      total (fun e => r.compileBelow executor (Path.join p e.1)
        (w.filesBelow x depth (Path.join p e.1) e.2)) entries := by
  rw [compileBelow, World.filesAmong, total_flatMap]
  congr
  funext e
  rw [total_map]
  rfl

theorem total_visit_eq (hexec : ∀ command w, (executor command w).2.SameFiles w)
    (hvisit : ∀ name n, (name, n) ∈ entries → ∀ s, s.world.SameFiles w →
      visit executor r x depth (Path.join p name) n.kind s =
        r.compileBelow executor (Path.join p name)
          (w.filesBelow x depth (Path.join p name) n.kind) s)
    (hs : s.world.SameFiles w) :
    total (fun e => visit executor r x depth (Path.join p e.1) e.2) (Entries.listing entries) s =
      r.compileBelow executor p (w.filesAmong x depth p (Entries.listing entries)) s := by
  rw [compileBelow_filesAmong]
  refine total_congr ?_ ?_ hs
  · rintro ⟨name, kind⟩ hlisted s hs
    obtain ⟨n, hentry, rfl⟩ := (Entries.mem_listing_iff _ _ _).mp hlisted
    exact hvisit name n hentry s hs
  · exact fun e => keepsFiles_total (fun _ => keepsFiles_compileFile hexec _) _

/-- Walking what a path names is compiling the files that the walk comes by. -/
theorem visit_eq (hexec : ∀ command w, (executor command w).2.SameFiles w)
    (h : w.Walkable x depth p here n) (hs : s.world.SameFiles w) :
    visit executor r x depth p n.kind s =
      r.compileBelow executor p (w.filesBelow x depth p n.kind) s := by
  induction h using World.Walkable.induction generalizing s with
  | @excluded _ _ _ n _ hx =>
      rw [World.filesBelow_of_excluded hx, compileBelow_nil]
      cases n.kind <;> rw [visit, if_pos hx]
  | file _ hx =>
      rw [Node.kind, visit, if_neg (by simp [hx]), World.filesBelow, if_neg (by simp [hx]),
        compileBelow, total_singleton]
      rfl
  | @link _ p _ _ _ hx =>
      rw [Node.kind, visit, if_neg (by simp [hx]), World.filesBelow, Action.bind_apply,
        Action.ask_apply, hs.isFile p]
      cases hfile : w.isFile p with
      | false => simp [compileBelow_nil]
      | true =>
          rw [if_neg (by simp [hx]), compileBelow, total_singleton]
          rfl
  | @dir _ p _ entries h hx ih =>
      have hlist : s.world.list p = .ok (Entries.listing entries) := by
        rw [hs.list p, h.list hx]
      rw [Node.kind, visit, if_neg (by simp [hx]), Action.bind_apply, Action.ask_apply, hlist,
        h.filesBelow_dir hx]
      exact total_visit_eq hexec (fun name n hentry s hs => ih name n hentry hs) hs

/-- So is walking a link to a directory, which is entered in any case. -/
theorem visitLink_eq (hexec : ∀ command w, (executor command w).2.SameFiles w)
    (h : w.Enterable x root here entries) (hkind : w.kindOf root = .ok .link)
    (hs : s.world.SameFiles w) :
    visitLink executor r x FileTree.pathLimit root s =
      r.compileBelow executor root (w.filesUnder x root) s := by
  have hfind : s.world.find root = .ok (.found here (.dir entries)) := by
    rw [hs.find root, h.find]
  have hlist : s.world.list root = .ok (Entries.listing entries) := by
    rw [World.list, hfind]
  rw [visitLink, Action.bind_apply, Action.ask_apply, hfind]
  simp only [Action.bind_apply, Action.ask_apply, hlist]
  rw [h.filesUnder_link hkind]
  exact total_visit_eq hexec (fun name n hentry s hs =>
    visit_eq hexec (h.entry hkind hentry) hs) hs

/-- Compiling everything under a directory is compiling the files that its walk comes by, and
then telling how many there were. -/
theorem compileTree_eq (hexec : ∀ command w, (executor command w).2.SameFiles w)
    (h : w.Enterable x root here entries) (hs : s.world.SameFiles w) :
    r.compileTree executor x root s =
      (r.compileBelow executor root (w.filesUnder x root) >>= fun n =>
        Action.say (("* done " : Text) ++ Text.ofNat n ++ (" in " : Text) ++ root) >>= fun _ =>
          pure n) s := by
  rw [compileTree, Action.bind_apply, Action.ask_apply, hs.kindOf root]
  rcases kindOf_of_find h.find with hkind | hkind
  · have hvisit := visit_eq (r := r) hexec (h.walkable hkind) hs
    simp only [Node.kind] at hvisit
    simp only [hkind, Action.bind_apply, hvisit, World.filesUnder]
  · simp only [hkind, Action.bind_apply, visitLink_eq hexec h hkind hs]

end

end BuildManifest.Recipe

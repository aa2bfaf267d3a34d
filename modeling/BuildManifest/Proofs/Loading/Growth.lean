import BuildManifest.Proofs.FileTree.Growth
import BuildManifest.Proofs.Loading.Chains
import Mathlib.Data.List.Nodup

/-!
Loading only adds to the files. Of its actions only two change them: directories are
made where there is nothing, and a file is fetched where there is nothing. What an
action has fetched is there when it has succeeded and stays there, so that nothing is
fetched to the same place again by what comes later.
-/

namespace BuildManifest

/-- Asked for a file where there is none, leaves alone whatever there is. -/
def Fetcher.Confined (fetcher : Fetcher) : Prop :=
  ∀ url destination (w : World), w.isPresent destination = false →
    w.Grows (fetcher url destination w).2

/-- Has a file in place when it has succeeded in getting one where there was none. -/
def Fetcher.Delivers (fetcher : Fetcher) : Prop :=
  ∀ url destination (w : World), w.isPresent destination = false →
    (fetcher url destination w).1 = .ok () →
    (fetcher url destination w).2.isPresent destination = true

/-- The same where there is no file yet; what is done about one that exists is open. -/
def Fetcher.AgreesOnAbsent (fetcher fetcher' : Fetcher) : Prop :=
  ∀ url destination (w : World), w.isPresent destination = false →
    fetcher url destination w = fetcher' url destination w

namespace Action

variable {α β : Type} {delivers : Prop} {a : Action α} {f g : α → Action β} {s : Session}

/-- Begun in this session, the action lets the files grow and fetches to places where there is
nothing yet. If fetching delivers, it is to a different place each time, and all of them are
taken when the action has succeeded. -/
def OnlyAddsFrom (delivers : Prop) (s : Session) (a : Action α) : Prop :=
  ∃ fetched : List (Text × Path),
    (a s).2.fetches = s.fetches ++ fetched ∧ s.world.Grows (a s).2.world ∧
    (∀ f ∈ fetched, s.world.isPresent f.2 = false) ∧
    (delivers → (fetched.map Prod.snd).Nodup ∧
      ∀ x, (a s).1 = .ok x → ∀ f ∈ fetched, (a s).2.world.isPresent f.2 = true)

def OnlyAdds (delivers : Prop) (a : Action α) : Prop := ∀ s, OnlyAddsFrom delivers s a

/-- An action that asks for no file only adds if it lets the files grow. -/
theorem onlyAdds_of_quiet (h : ∀ s, (a s).2.fetches = s.fetches ∧ s.world.Grows (a s).2.world) :
    OnlyAdds delivers a := fun s =>
  ⟨[], by rw [(h s).1, List.append_nil], (h s).2, by simp, fun _ => ⟨by simp, by simp⟩⟩

theorem onlyAdds_pure (x : α) : OnlyAdds delivers (pure x : Action α) :=
  onlyAdds_of_quiet fun s => ⟨rfl, .refl s.world⟩

theorem onlyAdds_fail (e : Failure) : OnlyAdds delivers (fail e : Action α) :=
  onlyAdds_of_quiet fun s => ⟨rfl, .refl s.world⟩

theorem onlyAdds_ofExcept (r : Except Failure α) : OnlyAdds delivers (ofExcept r) :=
  onlyAdds_of_quiet fun s => ⟨rfl, .refl s.world⟩

theorem onlyAdds_ask (g : World → α) : OnlyAdds delivers (ask g) :=
  onlyAdds_of_quiet fun s => ⟨rfl, .refl s.world⟩

theorem onlyAdds_say (t : Text) : OnlyAdds delivers (say t) :=
  onlyAdds_of_quiet fun s => ⟨rfl, (World.sameFiles_print s.world _).grows⟩

theorem onlyAdds_expand (scope : Scope) (v : Variables) (t : Text) :
    OnlyAdds delivers (expand scope v t) :=
  onlyAdds_of_quiet fun s => ⟨rfl, .refl s.world⟩

theorem onlyAdds_makeDirectories (p : Path) : OnlyAdds delivers (makeDirectories p) :=
  onlyAdds_of_quiet fun s => ⟨rfl, World.grows_ensureAll s.world p.ancestors⟩

/-- A confined fetcher only adds when it is asked for a file that is missing. -/
theorem onlyAddsFrom_fetch {fetcher : Fetcher} (h : fetcher.Confined) {destination : Path}
    (habsent : s.world.isPresent destination = false) (url : Text) :
    OnlyAddsFrom fetcher.Delivers s (fetch fetcher url destination) := by
  refine ⟨[(url, destination)], rfl, h url destination s.world habsent, ?_, fun hdelivers => ?_⟩
  · exact List.forall_mem_singleton.mpr habsent
  · refine ⟨List.nodup_singleton destination, fun _ hok => ?_⟩
    exact List.forall_mem_singleton.mpr (hdelivers url destination s.world habsent hok)

/-- What comes later finds the files as they were, or more of them. -/
theorem OnlyAddsFrom.bind (ha : OnlyAddsFrom delivers s a)
    (hf : ∀ x s₁, a s = (.ok x, s₁) → OnlyAddsFrom delivers s₁ (f x)) :
    OnlyAddsFrom delivers s (a >>= f) := by
  obtain ⟨first, hfirst, hgrows, habsent, hdelivers⟩ := ha
  rw [OnlyAddsFrom, bind_apply]
  cases hrun : a s with
  | mk result s₁ =>
      rw [hrun] at hfirst hgrows hdelivers
      cases result with
      | error e => exact ⟨first, hfirst, hgrows, habsent, fun h => ⟨(hdelivers h).1, by simp⟩⟩
      | ok x =>
          obtain ⟨later, hlater, hgrows', habsent', hdelivers'⟩ := hf x s₁ hrun
          have habsentBefore : ∀ f ∈ later, s.world.isPresent f.2 = false := fun f hf =>
            Bool.eq_false_iff.mpr fun hpresent =>
              Bool.eq_false_iff.mp (habsent' f hf) (hgrows.isPresent hpresent)
          refine ⟨first ++ later, ?_, hgrows.trans hgrows', ?_, fun h => ⟨?_, fun y hy => ?_⟩⟩
          · rw [hlater, hfirst, List.append_assoc]
          · exact List.forall_mem_append.mpr ⟨habsent, habsentBefore⟩
          · rw [List.map_append, List.nodup_append]
            refine ⟨(hdelivers h).1, (hdelivers' h).1, ?_⟩
            intro d hd d' hd' heq
            obtain ⟨f, hf, rfl⟩ := List.mem_map.mp hd
            obtain ⟨f', hf', rfl⟩ := List.mem_map.mp hd'
            -- the earlier one is taken when the later one is asked for, which was free then
            have htaken := (hdelivers h).2 x rfl f hf
            rw [heq, habsent' f' hf'] at htaken
            cases htaken
          · refine List.forall_mem_append.mpr ⟨fun f hf => ?_, (hdelivers' h).2 y hy⟩
            exact hgrows'.isPresent ((hdelivers h).2 x rfl f hf)

theorem OnlyAdds.bind (ha : OnlyAdds delivers a) (hf : ∀ x, OnlyAdds delivers (f x)) :
    OnlyAdds delivers (a >>= f) :=
  fun s => (ha s).bind fun x s₁ _ => hf x s₁

theorem onlyAdds_atLine (path : Path) (line : Nat) (ha : OnlyAdds delivers a) :
    OnlyAdds delivers (atLine path line a) := by
  intro s
  obtain ⟨fetched, hfetched, hgrows, habsent, hdelivers⟩ := ha s
  rw [OnlyAddsFrom, atLine]
  cases hrun : a s with
  | mk result s₁ =>
      rw [hrun] at hfetched hgrows hdelivers
      cases result with
      | ok x => exact ⟨fetched, hfetched, hgrows, habsent, hdelivers⟩
      | error e => exact ⟨fetched, hfetched, hgrows, habsent, fun h => ⟨(hdelivers h).1, by simp⟩⟩

theorem onlyAdds_chained : Chained fun _ a _ => OnlyAdds delivers a where
  pure := onlyAdds_pure
  badVariable _ := onlyAdds_fail _
  say := onlyAdds_say
  expand := onlyAdds_expand
  bind ha hf := ha.bind hf

/-- A chain may go on with another action if that one does the same from where the first link ends.
-/
theorem bind_congr (h : ∀ x s₁, a s = (.ok x, s₁) → f x s₁ = g x s₁) :
    (a >>= f) s = (a >>= g) s := by
  rw [bind_apply, bind_apply]
  cases hrun : a s with
  | mk result s₁ =>
      cases result with
      | error e => rfl
      | ok x => exact h x s₁ hrun

end Action

section

open BuildManifest.Action (OnlyAdds)

variable {fetcher fetcher' : Fetcher}

/-- What is there already is not asked for, so every request is for a place where there is nothing.
-/
theorem onlyAdds_fetchUnlessPresent (h : fetcher.Confined) (url : Text) (destination : Path) :
    OnlyAdds fetcher.Delivers (fetchUnlessPresent fetcher url destination) := by
  intro s
  rw [Action.OnlyAddsFrom]
  cases hpresent : s.world.isPresent destination with
  | true =>
      rw [fetchUnlessPresent_of_present hpresent]
      exact Action.onlyAdds_say _ s
  | false =>
      rw [fetchUnlessPresent_of_absent hpresent]
      refine (Action.onlyAdds_say _ s).bind fun _ s₁ hsay => ?_
      cases hsay
      refine (Action.onlyAddsFrom_fetch h ?_ url).bind fun _ s₂ _ => Action.onlyAdds_say _ s₂
      exact hpresent

/-- What the fetcher would do about a file that exists does not matter: it is not asked. -/
theorem fetchUnlessPresent_congr (h : fetcher.AgreesOnAbsent fetcher') (url : Text)
    (destination : Path) :
    fetchUnlessPresent fetcher url destination = fetchUnlessPresent fetcher' url destination := by
  funext s
  cases hpresent : s.world.isPresent destination with
  | true => rw [fetchUnlessPresent_of_present hpresent, fetchUnlessPresent_of_present hpresent]
  | false =>
      rw [fetchUnlessPresent_of_absent hpresent, fetchUnlessPresent_of_absent hpresent]
      refine Action.bind_congr fun _ s₁ hsay => ?_
      cases hsay
      have habsent (t : Text) : (s.world.print t).isPresent destination = false := hpresent
      rw [Action.bind_apply, Action.bind_apply, Action.fetch, Action.fetch,
        h url destination _ (habsent _)]

theorem onlyAdds_linked (h : fetcher.Confined) :
    Plan.Linked Eq fetcher fetcher (fun _ a _ => OnlyAdds fetcher.Delivers a)
      fun _ a _ => OnlyAdds fetcher.Delivers a where
  onLine := Action.onlyAdds_chained
  chained := Action.onlyAdds_chained
  atLine _ path _ _ h := Action.onlyAdds_atLine path _ h
  blame _ _ _ := Action.onlyAdds_fail _
  makeDirectories := Action.onlyAdds_makeDirectories
  fetch := onlyAdds_fetchUnlessPresent h

theorem eq_chained : Action.Chained fun _ => Eq where
  pure _ := rfl
  badVariable _ := rfl
  say _ := rfl
  expand _ _ _ := rfl
  bind ha hf := congrArg₂ _ ha (funext hf)

theorem eq_linked (h : fetcher.AgreesOnAbsent fetcher') :
    Plan.Linked Eq fetcher fetcher' (fun _ => Eq) fun _ => Eq where
  onLine := eq_chained
  chained := eq_chained
  atLine hline _ _ _ h := by rw [hline, h]
  blame hline _ _ := by rw [hline]
  makeDirectories _ := rfl
  fetch := fetchUnlessPresent_congr h

theorem onlyAdds_readManifest {delivers : Prop} (p : Path) :
    OnlyAdds delivers (readManifest p) := by
  refine (Action.onlyAdds_ask _).bind fun bytes => ?_
  split
  · exact Action.onlyAdds_fail _
  · split
    · exact Action.onlyAdds_fail _
    · exact Action.onlyAdds_pure _

theorem onlyAdds_loadText (h : fetcher.Confined) (options : LoadOptions) (p : Path)
    (v : Variables) (text : Text) :
    OnlyAdds fetcher.Delivers (loadText fetcher options p v text) :=
  (onlyAdds_linked h).loadText Action.onlyAdds_ofExcept options p v text

/-- A load only adds to the files, whether it succeeds or fails. -/
theorem onlyAdds_load (h : fetcher.Confined) (options : LoadOptions) (p : Path)
    (v : Variables) : OnlyAdds fetcher.Delivers (load fetcher options p v) := by
  refine (Action.onlyAdds_ask _).bind fun present => ?_
  cases present with
  | false =>
      refine OnlyAdds.bind (Action.onlyAdds_fail _) fun _ => ?_
      exact (onlyAdds_readManifest _).bind fun text => onlyAdds_loadText h options _ v text
  | true =>
      exact (onlyAdds_readManifest _).bind fun text => onlyAdds_loadText h options _ v text

/-- A load never asks its fetcher for a file that exists, so fetchers that differ only there come to
the same. -/
theorem load_congr (h : fetcher.AgreesOnAbsent fetcher') (options : LoadOptions) (p : Path)
    (v : Variables) : load fetcher options p v = load fetcher' options p v := by
  have hall : Plan.evaluateAll fetcher = Plan.evaluateAll fetcher' :=
    funext fun plan => funext fun instructions =>
      (eq_linked h).evaluateAll (Instruction.same_self instructions) plan
  rw [load, load, hall]

/-- Loading only adds to the files, whether it succeeds or fails, and wherever it fails. What
was at a place in the tree is still there and as it was, and so is what a path has led to, also
if a link at its end counts as itself. The fetcher is asked only for what does not exist: it
could do anything else about what exists, and loading would come to the same. Where it leaves a
file whenever it succeeds, it is asked for each destination once at most. -/
theorem load_only_adds (hconfined : fetcher.Confined) (options : LoadOptions) (p : Path)
    (v : Variables) (s : Session) :
    ∃ result s' fetched, load fetcher options p v s = (result, s') ∧
      s'.fetches = s.fetches ++ fetched ∧
      (∀ location n, s.world.tree.at? location = some n →
        ∃ n', s'.world.tree.at? location = some n' ∧ n.Alike n') ∧
      (∀ path location n, s.world.find path = .ok (.found location n) →
        ∃ n', s'.world.find path = .ok (.found location n') ∧ n.Alike n') ∧
      (∀ path location n, s.world.findSelf path = .ok (.found location n) →
        ∃ n', s'.world.findSelf path = .ok (.found location n') ∧ n.Alike n') ∧
      (∀ fetcher', fetcher.AgreesOnAbsent fetcher' →
        load fetcher' options p v s = (result, s')) ∧
      (fetcher.Delivers → (fetched.map Prod.snd).Nodup) := by
  obtain ⟨fetched, hfetched, hgrows, _, hdelivers⟩ := onlyAdds_load hconfined options p v s
  refine ⟨(load fetcher options p v s).1, (load fetcher options p v s).2, fetched, rfl, hfetched,
    hgrows.tree, fun _ _ _ => hgrows.find, fun _ _ _ => hgrows.findSelf, ?_,
    fun h => (hdelivers h).1⟩
  intro fetcher' hagrees
  rw [← load_congr hagrees]
  rfl

end

namespace Fetcher

def storing (content : ByteArray) : Fetcher := fun _ destination w =>
  match w.writeFile destination content with
  | .ok w' => (.ok (), w')
  | .error e => (.error (.io (.system e)), w)

/-- Writing where there is nothing makes a file in a free place, or fails. -/
theorem writeFile_of_absent {w w' : World} {p : Path} {content : ByteArray}
    (habsent : w.isPresent p = false) (h : w.writeFile p content = .ok w') :
    ∃ directory name, w.find p = .ok (.vacant directory name false) ∧
      w' = w.putAt (directory ++ [name]) (.file content false) := by
  have hnot : ∀ location n, w.find p ≠ .ok (.found location n) := fun location n hfound =>
    Bool.eq_false_iff.mp habsent (World.isPresent_iff.mpr ⟨location, n, hfound⟩)
  rw [World.writeFile] at h
  split at h
  · exact absurd ‹_› (hnot _ _)
  · exact absurd ‹_› (hnot _ _)
  · cases h
  · rename_i directory name hvacant
    cases h
    exact ⟨directory, name, hvacant, rfl⟩
  · cases h

theorem storing_confined (content : ByteArray) : (storing content).Confined := by
  intro url destination w habsent
  rw [storing]
  cases hwrite : w.writeFile destination content with
  | error e => exact .refl w
  | ok w' =>
      obtain ⟨directory, name, hvacant, rfl⟩ := writeFile_of_absent habsent hwrite
      exact World.grows_putAt (FileTree.free_of_lookup hvacant) _

theorem storing_delivers (content : ByteArray) : (storing content).Delivers := by
  intro url destination w habsent hok
  rw [storing] at hok ⊢
  cases hwrite : w.writeFile destination content with
  | error e =>
      rw [hwrite] at hok
      cases hok
  | ok w' =>
      obtain ⟨directory, name, hvacant, rfl⟩ := writeFile_of_absent habsent hwrite
      exact World.isPresent_iff.mpr ⟨_, _, World.find_putAt hvacant rfl⟩

end Fetcher

/-- Two downloads to the same file, the directory of which is named by a link. -/
def downloadManifest : Text :=
  "mkdir:l/x\ndownload:http://h/f in l/x/f\ndownload:http://h/g in d/../l/x/f\n"

def downloadSession : Session :=
  ⟨⟨.dir [("build.yang", .file downloadManifest.toBytes false), ("d", .dir []), ("l", .link "d")],
    [], [], []⟩, TokenSupply.ofSeed 0, [], []⟩

theorem length_fetches_downloadSession :
    (load (.storing .empty) ⟨"/", 64⟩ "build.yang" Table.empty
      downloadSession).2.fetches.length = 1 := by
  decide +kernel

/-- The link stays a link, and the second download has nothing to do. -/
theorem load_only_adds_behind_link :
    (Fetcher.storing .empty).Confined ∧ (Fetcher.storing .empty).Delivers ∧
    ∃ result s', load (.storing .empty) ⟨"/", 64⟩ "build.yang" Table.empty downloadSession =
        (result, s') ∧
      s'.world.findSelf "/l" = .ok (.found ["l"] (.link "d")) ∧
      s'.fetches.length = 1 ∧ (s'.fetches.map Prod.snd).Nodup := by
  have hconfined := Fetcher.storing_confined .empty
  have hdelivers := Fetcher.storing_delivers .empty
  obtain ⟨result, s', fetched, hload, hfetched, _, _, hself, _, hnodup⟩ :=
    load_only_adds hconfined ⟨"/", 64⟩ "build.yang" Table.empty downloadSession
  have hlink : downloadSession.world.findSelf "/l" = .ok (.found ["l"] (.link "d")) := rfl
  obtain ⟨n, hlink', halike⟩ := hself _ _ _ hlink
  cases halike
  have hall : s'.fetches = fetched := hfetched
  have honce := length_fetches_downloadSession
  rw [hload] at honce
  refine ⟨hconfined, hdelivers, result, s', hload, hlink', honce, ?_⟩
  rw [hall]
  exact hnodup hdelivers

end BuildManifest

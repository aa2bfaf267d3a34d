import BuildManifest.Compilation
import BuildManifest.Proofs.FileTree.Resolution
import BuildManifest.Proofs.World
import Mathlib.Data.List.Nodup
import Mathlib.Data.List.Pairwise

/-!
The files that a walk comes by, without the walk doing anything with them. They
are given by the names that lead down to them, and these are, for a directory
whose walk does not fail, exactly the files of the tree that no rule excludes on
the way, each once and in the order of the names.
-/

namespace BuildManifest

instance antisymm_lex_before : Std.Antisymm (List.Lex Text.Before) where
  antisymm names _ hlex hlex' :=
    absurd (List.lex_trans (fun h h' => h.trans h') hlex hlex')
      (List.lex_irrefl Text.before_irrefl names)

instance irrefl_lex_before : Std.Irrefl (List.Lex Text.Before) where
  irrefl := List.lex_irrefl Text.before_irrefl

namespace Exclusions

/-- No rule excludes anything that names come by on their way down from a path, what they lead
to included. -/
def SparesBelow (x : Exclusions) (p : Path) (names : List Text) : Prop :=
  ∀ above, above ≠ [] → above <+: names → x.excludes (Path.descend p above) = false

/-- The same, and no rule excludes the path itself. -/
def Spares (x : Exclusions) (p : Path) (names : List Text) : Prop :=
  x.excludes p = false ∧ x.SparesBelow p names

variable {x : Exclusions} {p : Path}

theorem sparesBelow_nil : x.SparesBelow p [] :=
  fun _ hne habove => absurd (List.prefix_nil.mp habove) hne

theorem spares_nil_iff : x.Spares p [] ↔ x.excludes p = false :=
  and_iff_left sparesBelow_nil

theorem sparesBelow_cons_iff {name : Text} {names : List Text} :
    x.SparesBelow p (name :: names) ↔ x.Spares (Path.join p name) names := by
  constructor
  · intro h
    refine ⟨h [name] (List.cons_ne_nil _ _) (List.prefix_append [name] names), ?_⟩
    intro above _ habove
    exact h (name :: above) (List.cons_ne_nil _ _) (List.cons_prefix_cons.mpr ⟨rfl, habove⟩)
  · rintro ⟨hname, h⟩ above hne habove
    obtain ⟨name', above, rfl⟩ := List.exists_cons_of_ne_nil hne
    obtain ⟨rfl, hrest⟩ := List.cons_prefix_cons.mp habove
    by_cases hlast : above = []
    · rw [hlast]
      exact hname
    · exact h above hlast hrest

end Exclusions

namespace World

open FileTree

/-- The files that a walk from a path comes by, in its order. What the path names is known to
be of this kind, and so many directories may be entered one inside the other. -/
def filesBelow (w : World) (x : Exclusions) : (depth : Nat) → Path → Kind → List (List Text)
  | depth, p, .dir =>
    if x.excludes p then []
    else
      match w.list p with
      | .error _ => []
      | .ok entries =>
        match depth with
        | 0 => []
        | depth + 1 =>
          entries.flatMap fun e => (filesBelow w x depth (Path.join p e.1) e.2).map (e.1 :: ·)
  | _, p, .file => if x.excludes p then [] else [[]]
  | _, p, .link => if x.excludes p || !w.isFile p then [] else [[]]

def filesAmong (w : World) (x : Exclusions) (depth : Nat) (p : Path)
    (entries : List (Text × Kind)) : List (List Text) :=
  entries.flatMap fun e => (w.filesBelow x depth (Path.join p e.1) e.2).map (e.1 :: ·)

/-- The files that the walk of a whole directory comes by. A link to a directory is entered
whether or not it is excluded. -/
def filesUnder (w : World) (x : Exclusions) (root : Path) : List (List Text) :=
  match w.kindOf root with
  | .error _ => []
  | .ok .link =>
    match w.list root with
    | .error _ => w.filesBelow x pathLimit root .link
    | .ok entries => w.filesAmong x pathLimit root entries
  | .ok kind => w.filesBelow x pathLimit root kind

/-- What the names lead to, down from a path that is at this place in the tree, is a file or a
link to one. No link is passed on the way. -/
def HasFile (w : World) (p : Path) (here : Location) (names : List Text) : Prop :=
  ∃ n, w.tree.at? (here ++ names) = some n ∧
    (n.kind = .file ∨ n.kind = .link ∧ w.isFile (Path.descend p names) = true)

/-- The directories below a place that meet a condition have paths short enough to be read. -/
def Listable (w : World) (p : Path) (here : Location) (met : List Text → Prop) : Prop :=
  ∀ names entries, w.tree.at? (here ++ names) = some (.dir entries) → met names →
    Text.byteLength (Path.descend p names) < pathLimit

/-- What a walk relies on that comes to a path: the path is not empty and leads to this node,
and every directory below that it may have to read has a path that is short enough. The bytes
of the path are what the walk has used up of its depth. -/
structure Walkable (w : World) (x : Exclusions) (depth : Nat) (p : Path) (here : Location)
    (n : Node) : Prop where
  proper : w.tree.isProper = true
  ne_nil : p ≠ []
  at_here : w.tree.at? here = some n
  find_dir : n.kind = .dir → Text.byteLength p < pathLimit → w.find p = .ok (.found here n)
  listable : w.Listable p here (x.Spares p)
  deep : pathLimit ≤ Text.byteLength p + depth

variable {w : World} {x : Exclusions} {depth : Nat} {p : Path} {here : Location}
  {n : Node} {entries : List (Text × Node)} {names : List Text}

/-- The directories within a proper tree are proper themselves. -/
theorem areProper_of_at? (hproper : w.tree.isProper = true)
    (hat : w.tree.at? here = some (.dir entries)) : Node.areProper entries = true := by
  have hdir := (Node.proper_of_at? hproper hat).1
  rwa [Node.isProper] at hdir

/-- Where no path gets too long, every directory can be read. -/
theorem listable_of_span {met : List Text → Prop} (hat : w.tree.at? here = some n)
    (hspan : Text.byteLength p + n.span < pathLimit) : w.Listable p here met := by
  intro names entries' hat' _
  rw [Node.at?_append, hat] at hat'
  exact Nat.lt_of_le_of_lt (Node.byteLength_descend_le hat') hspan

/-- The walk of a directory that has been found can go on with each of its entries. -/
theorem walkable_of_entry (hproper : w.tree.isProper = true)
    (hfind : w.find p = .ok (.found here (.dir entries)))
    (hlist : w.Listable p here (x.SparesBelow p))
    (hdeep : pathLimit ≤ Text.byteLength p + (depth + 1)) {name : Text}
    (hentry : (name, n) ∈ entries) :
    w.Walkable x depth (Path.join p name) (here ++ [name]) n := by
  have hat := at?_of_find hfind
  have hentries := areProper_of_at? hproper hat
  have hname := (Entries.proper_of_mem hentries hentry).1
  have hget := Entries.get?_of_mem hentries hentry
  have hne := ne_nil_of_find hfind
  have hlonger := Path.byteLength_join hne hname
  refine ⟨hproper, Path.join_ne_nil hne hname, ?_, ?_, ?_, by omega⟩
  · rw [Node.at?_append, hat]
    simp [Node.at?, hget]
  · intro hkind hshort
    have hnot : n.kind ≠ .link := by
      rw [hkind]
      decide
    exact find_join hfind hname hget hnot hshort
  · intro names entries' hat' hspares
    rw [List.append_assoc] at hat'
    exact hlist (name :: names) entries' hat' (Exclusions.sparesBelow_cons_iff.mpr hspares)

section

variable (h : w.Walkable x depth p here (.dir entries)) (hx : x.excludes p = false)
include h hx

theorem Walkable.find : w.find p = .ok (.found here (.dir entries)) := by
  have hat : w.tree.at? (here ++ []) = some (.dir entries) := by
    rw [List.append_nil]
    exact h.at_here
  exact h.find_dir rfl (h.listable [] entries hat (Exclusions.spares_nil_iff.mpr hx))

theorem Walkable.list : w.list p = .ok (Entries.listing entries) := by
  rw [World.list, h.find hx]

/-- A walk that has come to a directory it has to read may enter one more. -/
theorem Walkable.exists_depth : ∃ depth', depth = depth' + 1 := by
  have hshort := (lookup_eq_found_iff.mp (h.find hx)).1.2.1
  have hdeep := h.deep
  exact Nat.exists_eq_add_one.mpr (by omega)

end

/-- A walk that can be done can be done from each of the entries, one level further down. -/
theorem Walkable.entry (h : w.Walkable x (depth + 1) p here (.dir entries))
    (hx : x.excludes p = false) {name : Text} (hentry : (name, n) ∈ entries) :
    w.Walkable x depth (Path.join p name) (here ++ [name]) n :=
  walkable_of_entry h.proper (h.find hx)
    (fun names entries' hat hspares => h.listable names entries' hat ⟨hx, hspares⟩) h.deep hentry

/-- A walk is done at once with what is excluded, with a file and with a link, and it goes on
from a directory to each of the entries. Every step into a directory uses up depth. -/
@[elab_as_elim]
theorem Walkable.induction
    {motive : ∀ {depth p here n}, w.Walkable x depth p here n → Prop}
    (excluded : ∀ {depth p here n} (h : w.Walkable x depth p here n), x.excludes p = true →
      motive h)
    (file : ∀ {depth p here content executable}
      (h : w.Walkable x depth p here (.file content executable)), x.excludes p = false → motive h)
    (link : ∀ {depth p here target} (h : w.Walkable x depth p here (.link target)),
      x.excludes p = false → motive h)
    (dir : ∀ {depth p here entries} (h : w.Walkable x (depth + 1) p here (.dir entries))
      (hx : x.excludes p = false),
      (∀ name n (hentry : (name, n) ∈ entries), motive (h.entry hx hentry)) → motive h)
    (h : w.Walkable x depth p here n) : motive h := by
  induction depth using Nat.strongRecOn generalizing p here n with
  | ind depth ih =>
      by_cases hx : x.excludes p = true
      · exact excluded h hx
      rw [Bool.not_eq_true] at hx
      cases n with
      | file => exact file h hx
      | link => exact link h hx
      | dir entries =>
          obtain ⟨depth, rfl⟩ := h.exists_depth hx
          exact dir h hx fun name n hentry =>
            ih depth (Nat.lt_succ_self depth) (h.entry hx hentry)

theorem filesBelow_of_excluded {kind : Kind} (hx : x.excludes p = true) :
    w.filesBelow x depth p kind = [] := by
  cases kind <;> rw [filesBelow] <;> simp [hx]

theorem Walkable.filesBelow_dir (h : w.Walkable x (depth + 1) p here (.dir entries))
    (hx : x.excludes p = false) :
    w.filesBelow x (depth + 1) p .dir = w.filesAmong x depth p (Entries.listing entries) := by
  simp [filesBelow, filesAmong, hx, h.list hx]

section

variable (hat : w.tree.at? here = some n)
include hat

theorem hasFile_of_file (hkind : n.kind = .file) : w.HasFile p here names ↔ names = [] := by
  rw [HasFile, Node.at?_append, hat]
  cases n <;> cases names <;> simp_all [Node.at?, Node.kind]

theorem hasFile_of_link (hkind : n.kind = .link) :
    w.HasFile p here names ↔ names = [] ∧ w.isFile p = true := by
  rw [HasFile, Node.at?_append, hat]
  cases n <;> cases names <;> simp_all [Node.at?, Node.kind, Path.descend]

end

/-- What lies below a directory lies below one of its entries. -/
theorem hasFile_of_dir (hat : w.tree.at? here = some (.dir entries)) :
    w.HasFile p here names ↔ ∃ name n names', names = name :: names' ∧ (name, n) ∈ entries ∧
      w.HasFile (Path.join p name) (here ++ [name]) names' := by
  constructor
  · rintro ⟨n, hn, hkind⟩
    cases names with
    | nil =>
        rw [List.append_nil, hat] at hn
        cases hn
        simp [Node.kind] at hkind
    | cons name names' =>
        rw [Node.at?_append, hat] at hn
        cases hget : Entries.get? name entries with
        | none => simp [Node.at?, hget] at hn
        | some child =>
            refine ⟨name, child, names', rfl, Entries.mem_of_get? hget, n, ?_, hkind⟩
            rw [Node.at?_append, Node.at?_append, hat]
            simpa [Node.at?, hget] using hn
  · rintro ⟨name, child, names', rfl, _, n, hn, hkind⟩
    rw [List.append_assoc] at hn
    exact ⟨n, hn, hkind⟩

/-- The files among the entries of a directory, if those below each entry are known. -/
theorem mem_filesAmong_iff (hat : w.tree.at? here = some (.dir entries))
    (hbelow : ∀ name n, (name, n) ∈ entries → ∀ names,
      names ∈ w.filesBelow x depth (Path.join p name) n.kind ↔
        w.HasFile (Path.join p name) (here ++ [name]) names ∧
          x.Spares (Path.join p name) names) :
    names ∈ w.filesAmong x depth p (Entries.listing entries) ↔
      w.HasFile p here names ∧ x.SparesBelow p names := by
  rw [filesAmong, List.mem_flatMap, hasFile_of_dir hat]
  constructor
  · rintro ⟨⟨name, kind⟩, hlisted, hmem⟩
    obtain ⟨n, hentry, rfl⟩ := (Entries.mem_listing_iff _ _ _).mp hlisted
    obtain ⟨names', hnames', rfl⟩ := List.mem_map.mp hmem
    obtain ⟨hfile, hspares⟩ := (hbelow name n hentry names').mp hnames'
    exact ⟨⟨name, n, names', rfl, hentry, hfile⟩,
      Exclusions.sparesBelow_cons_iff.mpr hspares⟩
  · rintro ⟨⟨name, n, names', rfl, hentry, hfile⟩, hspares⟩
    have hnames' := (hbelow name n hentry names').mpr
      ⟨hfile, Exclusions.sparesBelow_cons_iff.mp hspares⟩
    exact ⟨(name, n.kind), (Entries.mem_listing_iff _ _ _).mpr ⟨n, hentry, rfl⟩,
      List.mem_map_of_mem hnames'⟩

/-- Entries are gone over in the order of their names, so files are met in order if they are below
each entry. -/
theorem filesAmong_pairwise (hproper : Node.areProper entries = true)
    (hbelow : ∀ name n, (name, n) ∈ entries →
      (w.filesBelow x depth (Path.join p name) n.kind).Pairwise (List.Lex Text.Before)) :
    (w.filesAmong x depth p (Entries.listing entries)).Pairwise (List.Lex Text.Before) := by
  rw [filesAmong, List.pairwise_flatMap]
  constructor
  · rintro ⟨name, kind⟩ hlisted
    obtain ⟨n, hentry, rfl⟩ := (Entries.mem_listing_iff _ _ _).mp hlisted
    exact (hbelow name n hentry).map _ fun _ _ hlex => List.Lex.cons hlex
  · refine (Entries.listing_pairwise hproper).imp ?_
    intro e e' hbefore names hnames names' hnames'
    obtain ⟨below, _, rfl⟩ := List.mem_map.mp hnames
    obtain ⟨below', _, rfl⟩ := List.mem_map.mp hnames'
    exact List.Lex.rel hbefore

/-- What a walk comes by is a file of the tree that is spared, and the other way round. -/
theorem mem_filesBelow_iff (h : w.Walkable x depth p here n) :
    names ∈ w.filesBelow x depth p n.kind ↔ w.HasFile p here names ∧ x.Spares p names := by
  induction h using Walkable.induction generalizing names with
  | excluded _ hx =>
      rw [filesBelow_of_excluded hx]
      simp [Exclusions.Spares, hx]
  | file h hx =>
      rw [Node.kind, filesBelow, if_neg (by simp [hx]), hasFile_of_file h.at_here rfl,
        List.mem_singleton]
      constructor
      · rintro rfl
        exact ⟨rfl, Exclusions.spares_nil_iff.mpr hx⟩
      · exact And.left
  | @link _ p _ _ h hx =>
      rw [Node.kind, filesBelow, hasFile_of_link h.at_here rfl]
      cases hfile : w.isFile p with
      | false => simp
      | true =>
          rw [if_neg (by simp [hx]), List.mem_singleton]
          constructor
          · rintro rfl
            exact ⟨⟨rfl, rfl⟩, Exclusions.spares_nil_iff.mpr hx⟩
          · exact fun hboth => hboth.1.1
  | @dir depth p here entries h hx ih =>
      have hamong : names ∈ w.filesAmong x depth p (Entries.listing entries) ↔
          w.HasFile p here names ∧ x.SparesBelow p names :=
        mem_filesAmong_iff h.at_here fun name n hentry _ => ih name n hentry
      rw [Node.kind, h.filesBelow_dir hx, hamong]
      simp [Exclusions.Spares, hx]

/-- The files come in the order of the names on the way to them. -/
theorem filesBelow_pairwise (h : w.Walkable x depth p here n) :
    (w.filesBelow x depth p n.kind).Pairwise (List.Lex Text.Before) := by
  induction h using Walkable.induction with
  | excluded _ hx =>
      rw [filesBelow_of_excluded hx]
      exact List.Pairwise.nil
  | file _ hx =>
      rw [Node.kind, filesBelow, if_neg (by simp [hx])]
      exact List.pairwise_singleton _ _
  | link =>
      rw [Node.kind, filesBelow]
      split
      · exact List.Pairwise.nil
      · exact List.pairwise_singleton _ _
  | dir h hx ih =>
      rw [Node.kind, h.filesBelow_dir hx]
      exact filesAmong_pairwise (areProper_of_at? h.proper h.at_here) ih

/-- Nothing on the way down from the root of a walk is excluded. For the root itself that is
asked only if it is no link. -/
def Spared (w : World) (x : Exclusions) (root : Path) (names : List Text) : Prop :=
  (w.kindOf root ≠ .ok .link → x.excludes root = false) ∧ x.SparesBelow root names

/-- A directory whose walk comes to its end: every directory that it enters can be read. -/
structure Enterable (w : World) (x : Exclusions) (root : Path) (here : Location)
    (entries : List (Text × Node)) : Prop where
  proper : w.tree.isProper = true
  find : w.find root = .ok (.found here (.dir entries))
  listable : w.Listable root here (w.Spared x root)

section

variable {root : Path}

theorem spared_of_dir (hkind : w.kindOf root = .ok .dir) :
    w.Spared x root names ↔ x.Spares root names := by
  simp [Spared, Exclusions.Spares, hkind]

theorem spared_of_link (hkind : w.kindOf root = .ok .link) :
    w.Spared x root names ↔ x.SparesBelow root names := by
  simp [Spared, hkind]

variable (h : w.Enterable x root here entries)
include h

theorem Enterable.walkable (hkind : w.kindOf root = .ok .dir) :
    w.Walkable x pathLimit root here (.dir entries) where
  proper := h.proper
  ne_nil := ne_nil_of_find h.find
  at_here := at?_of_find h.find
  find_dir := fun _ _ => h.find
  listable := fun names entries' hat hspares =>
    h.listable names entries' hat ((spared_of_dir hkind).mpr hspares)
  deep := Nat.le_add_left _ _

theorem Enterable.entry (hkind : w.kindOf root = .ok .link) {name : Text}
    (hentry : (name, n) ∈ entries) :
    w.Walkable x pathLimit (Path.join root name) (here ++ [name]) n := by
  refine walkable_of_entry h.proper h.find ?_ (by omega) hentry
  intro names entries' hat hspares
  exact h.listable names entries' hat ((spared_of_link hkind).mpr hspares)

theorem Enterable.filesUnder_link (hkind : w.kindOf root = .ok .link) :
    w.filesUnder x root = w.filesAmong x pathLimit root (Entries.listing entries) := by
  have hlist : w.list root = .ok (Entries.listing entries) := by
    rw [World.list, h.find]
  rw [filesUnder, hkind]
  simp only [hlist]

/-- The walk of a directory comes by the files below it that are spared. -/
theorem Enterable.mem_filesUnder_iff :
    names ∈ w.filesUnder x root ↔ w.HasFile root here names ∧ w.Spared x root names := by
  rcases kindOf_of_find h.find with hkind | hkind
  · rw [spared_of_dir hkind, filesUnder, hkind]
    exact mem_filesBelow_iff (h.walkable hkind)
  · rw [spared_of_link hkind, h.filesUnder_link hkind]
    exact mem_filesAmong_iff (at?_of_find h.find) fun name n hentry names =>
      mem_filesBelow_iff (h.entry hkind hentry)

/-- A walk comes by its files in the order of their names, compared by bytes. -/
theorem Enterable.filesUnder_pairwise :
    (w.filesUnder x root).Pairwise (List.Lex Text.Before) := by
  rcases kindOf_of_find h.find with hkind | hkind
  · rw [filesUnder, hkind]
    exact filesBelow_pairwise (h.walkable hkind)
  · rw [h.filesUnder_link hkind]
    exact filesAmong_pairwise (areProper_of_at? h.proper (at?_of_find h.find))
      fun name n hentry => filesBelow_pairwise (h.entry hkind hentry)

/-- The walk comes by no path twice. -/
theorem Enterable.nodup_paths : ((w.filesUnder x root).map (Path.descend root)).Nodup := by
  have hnames : ∀ names ∈ w.filesUnder x root, ∀ name ∈ names, Path.isName name = true := by
    intro names hmem name hname
    obtain ⟨⟨n, hat, _⟩, _⟩ := h.mem_filesUnder_iff.mp hmem
    exact (Node.proper_of_at? h.proper hat).2 name (List.mem_append_right here hname)
  have hnodup : (w.filesUnder x root).Nodup := by
    refine h.filesUnder_pairwise.imp ?_
    rintro names _ hlex rfl
    exact List.lex_irrefl Text.before_irrefl names hlex
  refine hnodup.map_on ?_
  intro names hmem names' hmem' heq
  exact Path.descend_injective (ne_nil_of_find h.find) (hnames names hmem)
    (hnames names' hmem') heq

end

end World

end BuildManifest

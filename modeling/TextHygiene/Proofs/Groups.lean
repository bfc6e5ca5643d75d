import Mathlib.Data.List.Dedup
import Mathlib.Data.List.Pairwise
import Mathlib.Data.List.SplitBy
import TextHygiene.Proofs.Run

/-!
# Groups of findings

A report groups the findings that stand side by side and are in one file.  The groups hold all
findings in order.  A file has one group, with all of its findings, as long as no other file has a
finding between two of its own; if a file comes back after another one, it has several groups and is
counted several times.  There are never more groups than files have been inspected.
-/

namespace TextHygiene

variable {a b c : Finding} {findings group : List Finding} {report : Report}

/-! ## Files of findings -/

theorem Path.same_iff {p q : Path} : p.same q = true ↔ p.components = q.components := by
  rw [same, beq_iff_eq]

/-- The file that a group of findings is in, as the components of its path. -/
def fileOf? (group : List Finding) : Option (List Component) :=
  group.head?.map (·.path.components)

def OneFile (findings : List Finding) : Prop :=
  ∀ a ∈ findings, ∀ b ∈ findings, a.path.same b.path = true

instance (findings : List Finding) : Decidable (OneFile findings) :=
  inferInstanceAs (Decidable (∀ a ∈ findings, ∀ b ∈ findings, a.path.same b.path = true))

/-- Between two findings of one file there are only findings of that file. -/
def Gathered (findings : List Finding) : Prop :=
  ∀ a b c, [a, b, c].Sublist findings → a.path.same c.path = true → a.path.same b.path = true

/-- A group of findings of one file is in the file of each of them. -/
theorem OneFile.fileOf? (h : OneFile group) (ha : a ∈ group) :
    fileOf? group = some a.path.components := by
  cases group with
  | nil => cases ha
  | cons first rest => exact congrArg some (Path.same_iff.1 (h _ List.mem_cons_self _ ha))

/-- In a group of one file every finding is in the file of the one before. -/
theorem OneFile.isChain (h : OneFile group) :
    group.IsChain fun a b => a.path.same b.path = true :=
  (List.pairwise_of_forall_mem_list h).isChain

/-- If every finding is in the file of the one before, all are in the file of the first. -/
theorem oneFile_of_isChain (h : group.IsChain fun a b => a.path.same b.path = true) :
    OneFile group := by
  simp only [Path.same_iff] at h
  -- neighbours have the same components, so all have
  have hall : (group.map (·.path.components)).IsChain (· = ·) := List.isChain_map _ |>.2 h
  intro a ha b hb
  rw [Path.same_iff]
  exact hall.pairwise.forall_of_forall (fun _ _ => rfl) (List.mem_map_of_mem ha)
    (List.mem_map_of_mem hb)

/-- The inspection of a file makes findings in that file only. -/
theorem oneFile_inspectFile (ws : Workspace) (settings : Settings) (path : Path) :
    OneFile (ws.inspectFile settings path) := by
  -- with a text or without, the findings carry the path that was asked for
  have hpath : ∀ a ∈ ws.inspectFile settings path, a.path = path := by
    intro a ha
    rcases cases_of_mem_inspectFile ha with ⟨_, issue, _, rfl⟩ | ⟨reason, rfl⟩
    · rfl
    · rfl
  intro a ha b hb
  rw [hpath a ha, hpath b hb, Path.same_iff]

/-! ## Groups of a report -/

namespace Report

def distinctFiles (report : Report) : Nat :=
  (report.findings.map (·.path.components)).dedup.length

/-- Every file with findings has exactly one group, which holds all of its findings. -/
def GroupsExact (report : Report) : Prop :=
  ∀ finding ∈ report.findings,
    report.groups.filter (fun group => fileOf? group = some finding.path.components) =
      [report.findings.filter (·.path.same finding.path)]

/-- The groups in a row are the findings. -/
theorem flatten_groups (report : Report) : report.groups.flatten = report.findings :=
  List.flatten_splitBy _ _

/-- The findings of a group are in one file. -/
theorem oneFile_of_mem_groups (h : group ∈ report.groups) : OneFile group :=
  oneFile_of_isChain (List.isChain_of_mem_splitBy h)

theorem fileOf?_of_mem_groups (h : group ∈ report.groups) (ha : a ∈ group) :
    fileOf? group = some a.path.components :=
  (oneFile_of_mem_groups h).fileOf? ha

/-- No group is empty. -/
theorem exists_mem_of_mem_groups (h : group ∈ report.groups) : ∃ a, a ∈ group :=
  List.exists_mem_of_ne_nil group (List.ne_nil_of_mem_splitBy h)

theorem mem_findings_of_mem_groups (h : group ∈ report.groups) (ha : a ∈ group) :
    a ∈ report.findings := by
  rw [← flatten_groups]
  exact List.mem_flatten_of_mem h ha

/-- Groups that stand side by side are in different files. -/
theorem fileOf?_ne_of_neighbours {next : List Finding} (h : [group, next] <:+: report.groups) :
    fileOf? group ≠ fileOf? next := by
  have hchain := List.IsChain.infix (List.isChain_getLast_head_splitBy _ report.findings) h
  rcases List.isChain_pair.1 hchain with ⟨hgroup, hnext, hdiffer⟩
  have hmem : group ∈ report.groups ∧ next ∈ report.groups :=
    ⟨h.subset (by simp), h.subset (by simp)⟩
  rw [fileOf?_of_mem_groups hmem.1 (List.getLast_mem hgroup),
    fileOf?_of_mem_groups hmem.2 (List.head_mem hnext)]
  intro hsame
  rw [Path.same_iff.2 (Option.some.inj hsame)] at hdiffer
  cases hdiffer

/-- The files of the groups are the files with findings. -/
theorem fileOf?_mem_groups_iff {file : List Component} :
    (∃ group ∈ report.groups, fileOf? group = some file) ↔
      ∃ finding ∈ report.findings, finding.path.components = file := by
  constructor
  · rintro ⟨group, hgroup, hfile⟩
    rcases exists_mem_of_mem_groups hgroup with ⟨a, ha⟩
    rw [fileOf?_of_mem_groups hgroup ha] at hfile
    exact ⟨a, mem_findings_of_mem_groups hgroup ha, Option.some.inj hfile⟩
  · rintro ⟨finding, hfinding, rfl⟩
    rw [← flatten_groups] at hfinding
    rcases List.mem_flatten.1 hfinding with ⟨group, hgroup, hmem⟩
    exact ⟨group, hgroup, fileOf?_of_mem_groups hgroup hmem⟩

/-! ## Counting files -/

/-- Each file counts once among the files of the groups. -/
theorem length_dedup_fileOf? (report : Report) :
    (report.groups.map fileOf?).dedup.length = report.distinctFiles := by
  have hsome : (report.findings.map fun finding => some finding.path.components) =
      (report.findings.map (·.path.components)).map some := by
    rw [List.map_map]
    rfl
  -- the groups and the findings are in the same files, and no group is empty
  have hperm : (report.groups.map fileOf?).dedup.Perm
      (report.findings.map fun finding => some finding.path.components).dedup := by
    refine (List.perm_ext_iff_of_nodup (List.nodup_dedup _) (List.nodup_dedup _)).2 ?_
    intro file?
    simp only [List.mem_dedup, List.mem_map]
    cases file? with
    | none =>
        refine iff_of_false ?_ (by simp)
        rintro ⟨group, hgroup, hnone⟩
        rcases exists_mem_of_mem_groups hgroup with ⟨a, ha⟩
        rw [fileOf?_of_mem_groups hgroup ha] at hnone
        cases hnone
    | some file => simpa using fileOf?_mem_groups_iff
  rw [hperm.length_eq, hsome, List.dedup_map_of_injective fun _ _ => Option.some.inj,
    List.length_map, distinctFiles]

/-- There are at least as many groups as files with findings. -/
theorem distinctFiles_le (report : Report) : report.distinctFiles ≤ report.filesWithFindings := by
  rw [← length_dedup_fileOf?, filesWithFindings, ← List.length_map fileOf?]
  exact (List.dedup_sublist _).length_le

/-- The groups count the files exactly if no two groups are in one file. -/
theorem filesWithFindings_eq_iff_nodup :
    report.filesWithFindings = report.distinctFiles ↔ (report.groups.map fileOf?).Nodup := by
  rw [← length_dedup_fileOf?, filesWithFindings, ← List.length_map fileOf?]
  constructor
  · intro h
    rw [← (List.dedup_sublist _).eq_of_length h.symm]
    exact List.nodup_dedup _
  · intro h
    rw [h.dedup]

/-! ## Files that come back -/

theorem nodup_fileOf?_iff_pairwise :
    (report.groups.map fileOf?).Nodup ↔
      report.groups.Pairwise fun a b => fileOf? a ≠ fileOf? b :=
  List.pairwise_map

/-- If the groups are in different files, then nothing around a group is in its file. -/
theorem exists_split_of_nodup (h : (report.groups.map fileOf?).Nodup)
    (hgroup : group ∈ report.groups) (ha : a ∈ group) :
    ∃ before after, report.groups = before ++ group :: after ∧
      ∀ others ⊆ before ++ after, (∀ other ∈ others, fileOf? other ≠ some a.path.components) ∧
        ∀ x ∈ others.flatten, ¬ x.path.same a.path = true := by
  rcases List.append_of_mem hgroup with ⟨before, after, hsplit⟩
  refine ⟨before, after, hsplit, ?_⟩
  intro others hsubset
  -- a further group in the file of `a` would be a repetition
  have hapart : ∀ other ∈ others, fileOf? other ≠ some a.path.components := by
    intro other hother heq
    rw [hsplit, List.map_append, List.map_cons, List.nodup_middle, List.nodup_cons,
      ← List.map_append, fileOf?_of_mem_groups hgroup ha] at h
    exact h.1 (List.mem_map.2 ⟨other, hsubset hother, heq⟩)
  refine ⟨hapart, ?_⟩
  intro x hx hsame
  rcases List.mem_flatten.1 hx with ⟨other, hother, hin⟩
  have hmem : other ∈ report.groups := by
    rw [hsplit, List.mem_append, List.mem_cons]
    exact (List.mem_append.1 (hsubset hother)).imp_right Or.inr
  refine hapart other hother ?_
  rw [fileOf?_of_mem_groups hmem hin, Path.same_iff.1 hsame]

/-- If two of three findings in order are in no part but the middle one, then so is the third. -/
theorem mem_of_triple_sublist {before after : List Finding}
    (h : [a, b, c].Sublist (before ++ (group ++ after))) (ha : a ∉ before) (hc : c ∉ after) :
    b ∈ group := by
  rcases List.sublist_append_iff.1 h with ⟨first, others, hsplit, hfirst, hothers⟩
  cases first with
  | cons x first =>
      rcases List.cons.inj hsplit with ⟨rfl, _⟩
      exact absurd (hfirst.subset List.mem_cons_self) ha
  | nil =>
      rw [List.nil_append] at hsplit
      subst hsplit
      rcases List.sublist_append_iff.1 hothers with ⟨middle, last, hsplit, hmiddle, hlast⟩
      rcases List.eq_nil_or_concat' last with rfl | ⟨last, x, rfl⟩
      · rw [List.append_nil] at hsplit
        exact hmiddle.subset (hsplit ▸ by simp)
      · -- the last of the three would be in the part that follows
        have hx : x = c := by
          have hlast := congrArg List.getLast? hsplit
          simpa [← List.append_assoc] using hlast.symm
        exact absurd (hlast.subset (hx ▸ by simp)) hc

/-- Findings of groups in order stand in this order. -/
theorem triple_sublist_findings {next later : List Finding}
    (h : [group, next, later].Sublist report.groups) (ha : a ∈ group) (hb : b ∈ next)
    (hc : c ∈ later) : [a, b, c].Sublist report.findings := by
  have hflatten : [a, b, c].Sublist [group, next, later].flatten := by
    have hbc := (List.singleton_sublist.2 hb).append (List.singleton_sublist.2 hc)
    simpa using (List.singleton_sublist.2 ha).append hbc
  rw [← flatten_groups]
  exact hflatten.trans h.flatten

/-- Between two groups of one file there is a group of another file. -/
theorem exists_group_between {later : List Finding} (h : [group, later].Sublist report.groups)
    (hsame : fileOf? group = fileOf? later) :
    ∃ next, [group, next, later].Sublist report.groups ∧ fileOf? group ≠ fileOf? next := by
  rcases List.cons_sublist_iff.1 h with ⟨front, back, hsplit, hgroup, hlater⟩
  rcases List.append_of_mem hgroup with ⟨before, between, rfl⟩
  rw [List.append_assoc, List.cons_append] at hsplit
  have hmem : later ∈ between ++ back :=
    List.mem_append_right _ (List.singleton_sublist.1 hlater)
  -- the group that stands next to the first is in another file, so it is not the later one
  cases hrest : between ++ back with
  | nil =>
      rw [hrest] at hmem
      cases hmem
  | cons next others =>
      rw [hrest] at hsplit hmem
      have hdiffer : fileOf? group ≠ fileOf? next :=
        fileOf?_ne_of_neighbours ⟨before, others, by rw [hsplit]; simp⟩
      rcases List.mem_cons.1 hmem with rfl | hothers
      · exact absurd hsame hdiffer
      · refine ⟨next, ?_, hdiffer⟩
        rw [hsplit]
        refine List.Sublist.trans ?_ (List.sublist_append_right before _)
        exact ((List.singleton_sublist.2 hothers).cons_cons next).cons_cons group

/-- If no two groups are in one file, nothing stands between the findings of a file. -/
theorem gathered_of_nodup (h : (report.groups.map fileOf?).Nodup) : Gathered report.findings := by
  intro a b c hsub hac
  rw [← flatten_groups] at hsub
  rcases List.mem_flatten.1 (hsub.subset List.mem_cons_self) with ⟨group, hgroup, ha⟩
  rcases exists_split_of_nodup h hgroup ha with ⟨before, after, hsplit, hothers⟩
  have hbefore : a ∉ before.flatten := fun hmem =>
    (hothers before (List.subset_append_left _ _)).2 a hmem (Path.same_iff.2 rfl)
  have hafter : c ∉ after.flatten := fun hmem =>
    (hothers after (List.subset_append_right _ _)).2 c hmem
      (Path.same_iff.2 (Path.same_iff.1 hac).symm)
  rw [hsplit, List.flatten_append, List.flatten_cons] at hsub
  exact oneFile_of_mem_groups hgroup a ha b (mem_of_triple_sublist hsub hbefore hafter)

/-- If nothing stands between the findings of a file, no two groups are in one file. -/
theorem nodup_of_gathered (h : Gathered report.findings) : (report.groups.map fileOf?).Nodup := by
  rw [nodup_fileOf?_iff_pairwise, List.pairwise_iff_forall_sublist]
  intro group later hsub hsame
  -- a group of another file in between shows that the file comes back
  rcases exists_group_between hsub hsame with ⟨next, htriple, hdiffer⟩
  have hmem : ∀ x ∈ [group, next, later], ∃ a ∈ x, fileOf? x = some a.path.components := by
    intro x hx
    rcases exists_mem_of_mem_groups (htriple.subset hx) with ⟨a, ha⟩
    exact ⟨a, ha, fileOf?_of_mem_groups (htriple.subset hx) ha⟩
  rcases hmem group (by simp) with ⟨a, ha, hafile⟩
  rcases hmem next (by simp) with ⟨b, hb, hbfile⟩
  rcases hmem later (by simp) with ⟨c, hc, hcfile⟩
  rw [hafile, hcfile, Option.some_inj] at hsame
  have hab := h a b c (triple_sublist_findings htriple ha hb hc) (Path.same_iff.2 hsame)
  refine hdiffer ?_
  rw [hafile, hbfile, Path.same_iff.1 hab]

/-- The files of the groups are all different exactly if no file comes back. -/
theorem nodup_fileOf?_iff_gathered :
    (report.groups.map fileOf?).Nodup ↔ Gathered report.findings :=
  ⟨gathered_of_nodup, nodup_of_gathered⟩

/-- If every file has exactly one group, no two groups are in one file. -/
theorem nodup_of_groupsExact (h : report.GroupsExact) : (report.groups.map fileOf?).Nodup := by
  rw [nodup_fileOf?_iff_pairwise, List.pairwise_iff_forall_sublist]
  intro group later hsub hsame
  have hgroup : group ∈ report.groups := hsub.subset List.mem_cons_self
  rcases exists_mem_of_mem_groups hgroup with ⟨a, ha⟩
  have hfile := fileOf?_of_mem_groups hgroup ha
  -- both groups are among the groups of that file, which are only one
  have hboth := hsub.filter fun group => fileOf? group = some a.path.components
  rw [h a (mem_findings_of_mem_groups hgroup ha),
    List.filter_cons_of_pos (by simpa using hfile),
    List.filter_cons_of_pos (by simpa using hsame ▸ hfile)] at hboth
  exact absurd hboth.length_le (by simp)

/-- If no two groups are in one file, every file has exactly one group, with all of its findings. -/
theorem groupsExact_of_nodup (h : (report.groups.map fileOf?).Nodup) : report.GroupsExact := by
  intro finding hfinding
  rw [← flatten_groups] at hfinding
  rcases List.mem_flatten.1 hfinding with ⟨group, hgroup, hmem⟩
  rcases exists_split_of_nodup h hgroup hmem with ⟨before, after, hsplit, hothers⟩
  have hfile := fileOf?_of_mem_groups hgroup hmem
  have hself : group.filter (·.path.same finding.path) = group :=
    List.filter_eq_self.2 fun x hx => oneFile_of_mem_groups hgroup x hx finding hmem
  -- the groups around it have nothing of its file
  have hnone : ∀ others ⊆ before ++ after,
      others.filter (fun group => fileOf? group = some finding.path.components) = [] ∧
        others.flatten.filter (·.path.same finding.path) = [] := by
    intro others hsubset
    rcases hothers others hsubset with ⟨hfiles, hfindings⟩
    exact ⟨List.filter_eq_nil_iff.2 (by simpa using hfiles), List.filter_eq_nil_iff.2 hfindings⟩
  rcases hnone before (List.subset_append_left _ _) with ⟨hbefore, hbefore'⟩
  rcases hnone after (List.subset_append_right _ _) with ⟨hafter, hafter'⟩
  rw [← flatten_groups, hsplit, List.flatten_append, List.flatten_cons, List.filter_append,
    List.filter_append, List.filter_append, List.filter_cons_of_pos (by simpa using hfile),
    hbefore, hbefore', hafter, hafter', hself, List.nil_append, List.nil_append, List.append_nil]

/-- The groups are those of their files exactly if the files of the groups are all different. -/
theorem groupsExact_iff_nodup : report.GroupsExact ↔ (report.groups.map fileOf?).Nodup :=
  ⟨nodup_of_groupsExact, groupsExact_of_nodup⟩

/-! ## Groups and inspected files -/

/-- A finding in front of another one of its file goes into the same group. -/
theorem length_splitBy_of_same {rest : List Finding} (h : a.path.same b.path = true) :
    ((a :: b :: rest).splitBy fun a b => a.path.same b.path).length =
      ((b :: rest).splitBy fun a b => a.path.same b.path).length := by
  cases hgroups : (b :: rest).splitBy fun a b => a.path.same b.path with
  | nil => exact absurd (List.splitBy_eq_nil.1 hgroups) (List.cons_ne_nil b rest)
  | cons group others =>
      suffices hlonger : (a :: b :: rest).splitBy (fun a b => a.path.same b.path) =
          (a :: group) :: others by
        rw [hlonger, List.length_cons, List.length_cons]
      rcases List.splitBy_eq_iff.1 hgroups with ⟨hflatten, hne, hchain, hapart⟩
      rw [List.splitBy_eq_iff]
      cases group with
      | nil => exact absurd List.mem_cons_self hne
      | cons first group =>
          rcases List.cons.inj hflatten with ⟨rfl, hrest⟩
          rcases List.forall_mem_cons.1 hchain with ⟨hfirst, hothers⟩
          refine ⟨?_, ?_, ?_, ?_⟩
          · rw [hrest]
            rfl
          · intro hmem
            exact hne (List.mem_cons_of_mem _ ((List.mem_cons.1 hmem).resolve_left nofun))
          · exact List.forall_mem_cons.2 ⟨List.isChain_cons_cons.2 ⟨h, hfirst⟩, hothers⟩
          · -- the last finding of the group is the one that it was
            rw [List.isChain_cons] at hapart ⊢
            refine ⟨fun next hnext => ?_, hapart.2⟩
            rcases hapart.1 next hnext with ⟨hgroup, hnext', hdiffer⟩
            exact ⟨List.cons_ne_nil _ _, hnext', by rwa [List.getLast_cons hgroup]⟩

/-- A finding in front of one of another file has a group of its own. -/
theorem length_splitBy_of_not_same {rest : List Finding} (h : ¬ a.path.same b.path = true) :
    ((a :: b :: rest).splitBy fun a b => a.path.same b.path).length =
      ((b :: rest).splitBy fun a b => a.path.same b.path).length + 1 := by
  have hsplit := List.splitBy_append_cons (l := [a]) (a := b) rest
    (r := fun a b : Finding => a.path.same b.path) (by simpa using h)
  rw [List.singleton_append] at hsplit
  rw [hsplit, List.length_append, List.splitBy_of_isChain (List.cons_ne_nil a [])
    (List.isChain_singleton a), List.length_singleton, Nat.add_comm]

/-- Findings of one file make one group at most. -/
theorem length_splitBy_le_of_oneFile (h : OneFile findings) :
    (findings.splitBy fun a b => a.path.same b.path).length ≤ 1 := by
  cases findings with
  | nil => exact Nat.zero_le 1
  | cons first rest =>
      rw [List.splitBy_of_isChain (List.cons_ne_nil first rest) h.isChain, List.length_singleton]

/-- The findings of one more file make at most one more group. -/
theorem length_splitBy_append_le (earlier : List Finding) (h : OneFile findings) :
    ((earlier ++ findings).splitBy fun a b => a.path.same b.path).length ≤
      (earlier.splitBy fun a b => a.path.same b.path).length + 1 := by
  induction earlier with
  | nil => exact length_splitBy_le_of_oneFile h
  | cons a earlier ih =>
      -- whether the first finding joins the next one is the same with more findings at the end
      cases earlier with
      | cons b earlier =>
          rw [List.cons_append, List.cons_append]
          by_cases hsame : a.path.same b.path = true
          · rw [length_splitBy_of_same hsame, length_splitBy_of_same hsame]
            exact ih
          · rw [length_splitBy_of_not_same hsame, length_splitBy_of_not_same hsame]
            exact Nat.succ_le_succ ih
      | nil =>
          -- the last of the earlier findings may join those of the file
          rw [List.singleton_append]
          cases findings with
          | nil => exact Nat.le_succ _
          | cons b findings =>
              rw [List.splitBy_of_isChain (List.cons_ne_nil a []) (List.isChain_singleton a),
                List.length_singleton]
              by_cases hsame : a.path.same b.path = true
              · rw [length_splitBy_of_same hsame]
                exact Nat.le_succ_of_le (length_splitBy_le_of_oneFile h)
              · rw [length_splitBy_of_not_same hsame]
                exact Nat.succ_le_succ (length_splitBy_le_of_oneFile h)

/-- A further file adds one group at most. -/
theorem filesWithFindings_addFile_le (report : Report) (h : OneFile findings) :
    (report.addFile findings).filesWithFindings ≤ report.filesWithFindings + 1 :=
  length_splitBy_append_le report.findings h

/-! ## Reports that grow -/

/-- What is added to a report. -/
inductive Addition where
  /-- The findings of one more file. -/
  | file (findings : List Finding)
  /-- Entries that had to be skipped. -/
  | skipped (paths : List Path)

def Addition.newFindings : Addition → List Finding
  | file findings => findings
  | skipped _ => []

def adding (report : Report) : Addition → Report
  | .file findings => report.addFile findings
  | .skipped paths => report.addSkipped paths

/-- An empty report to which things are added one after the other. -/
def grown (additions : List Addition) : Report :=
  additions.foldl adding {}

variable {addition : Addition} {additions : List Addition}

/-- A report of some files grows by one file after the other. -/
theorem ofFiles_eq_grown (files : List (List Finding)) :
    ofFiles files = grown (files.map .file) := by
  rw [grown, List.foldl_map]
  rfl

/-- A run that gets as far as a report has added the selected files, each with the findings of its
own path, and then what was skipped. -/
theorem exists_grown_of_inspectAll {ws : Workspace} {cli : CommandLine}
    (h : (ws.inspectAll cli).outcome = .ok report) :
    ∃ additions, (∀ addition ∈ additions, OneFile addition.newFindings) ∧
      report = grown additions := by
  rcases inspectAll_outcome_eq_ok_iff.1 h with
    ⟨_, _, resolved, selection, _, _, _, _, rfl⟩
  -- a run adds one file after the other and what was skipped last
  refine ⟨(ws.findingsOfFiles resolved selection.files).map .file ++ [.skipped selection.skipped],
    ?_, ?_⟩
  · intro addition hmem
    rcases List.mem_append.1 hmem with hfile | hskipped
    · rcases List.mem_map.1 hfile with ⟨findings, hfindings, rfl⟩
      rcases List.mem_map.1 hfindings with ⟨file, _, rfl⟩
      exact oneFile_inspectFile _ _ _
    · cases List.mem_singleton.1 hskipped
      exact nofun
  · rw [grown, List.foldl_append, ofFiles_eq_grown]
    rfl

theorem findings_adding (report : Report) (addition : Addition) :
    (report.adding addition).findings = report.findings ++ addition.newFindings := by
  cases addition with
  | file findings => rfl
  | skipped paths => exact (List.append_nil _).symm

/-- A report holds the findings that were added, in order. -/
theorem findings_foldl_adding (report : Report) (additions : List Addition) :
    (additions.foldl adding report).findings =
      report.findings ++ additions.flatMap Addition.newFindings := by
  induction additions generalizing report with
  | nil => exact (List.append_nil _).symm
  | cons addition additions ih =>
      rw [List.foldl_cons, ih, findings_adding, List.flatMap_cons, List.append_assoc]

/-- An addition never lets the groups outnumber the files inspected. -/
theorem filesWithFindings_adding_le (hone : OneFile addition.newFindings)
    (h : report.filesWithFindings ≤ report.filesInspected) :
    (report.adding addition).filesWithFindings ≤ (report.adding addition).filesInspected := by
  cases addition with
  | file findings => exact (filesWithFindings_addFile_le report hone).trans (Nat.succ_le_succ h)
  | skipped paths => exact h

/-- However a report grows, the groups never outnumber the files inspected. -/
theorem filesWithFindings_foldl_adding_le
    (hone : ∀ addition ∈ additions, OneFile addition.newFindings)
    (h : report.filesWithFindings ≤ report.filesInspected) :
    (additions.foldl adding report).filesWithFindings ≤
      (additions.foldl adding report).filesInspected := by
  induction additions generalizing report with
  | nil => exact h
  | cons addition additions ih =>
      rcases List.forall_mem_cons.1 hone with ⟨hfirst, hrest⟩
      exact ih hrest (filesWithFindings_adding_le hfirst h)

/-- In a report that grows file by file, there are at most as many files with findings as files
inspected, and at least as many as there are different files among the findings.  These are equally
many, and every file has one group with all of its findings, exactly if no file comes back after
another one. -/
theorem filesWithFindings_grown
    (hone : ∀ addition ∈ additions, OneFile addition.newFindings) :
    (grown additions).findings = additions.flatMap Addition.newFindings ∧
      (grown additions).filesWithFindings ≤ (grown additions).filesInspected ∧
      (grown additions).distinctFiles ≤ (grown additions).filesWithFindings ∧
      ((grown additions).filesWithFindings = (grown additions).distinctFiles ↔
        Gathered (grown additions).findings) ∧
      ((grown additions).GroupsExact ↔ Gathered (grown additions).findings) := by
  refine ⟨findings_foldl_adding {} additions, ?_, distinctFiles_le _, ?_, ?_⟩
  · exact filesWithFindings_foldl_adding_le hone (Nat.le_refl 0)
  · exact filesWithFindings_eq_iff_nodup.trans nodup_fileOf?_iff_gathered
  · exact groupsExact_iff_nodup.trans nodup_fileOf?_iff_gathered

/-- A finding at the end of a line of a file. -/
def trailingAt (path : String) (line : Nat) : Finding :=
  ⟨path.toList, line, .trailingWhitespace, "Trailing whitespace".toList⟩

/-- A file with findings, a skipped directory, a file without findings, the first file in another
spelling, and another file. -/
def gatheredAdditions : List Addition :=
  [.file [trailingAt "d/a.py" 1, trailingAt "d/a.py" 4], .skipped ["d/e".toList], .file [],
    .file [trailingAt "d//a.py" 1], .file [trailingAt "b.py" 2]]

/-- A skipped directory, a clean file and another spelling of the path do not part the findings of a
file. -/
theorem filesWithFindings_grown_gathered :
    (∀ addition ∈ gatheredAdditions, OneFile addition.newFindings) ∧
      Gathered (grown gatheredAdditions).findings := by
  have hone : ∀ addition ∈ gatheredAdditions, OneFile addition.newFindings := by
    decide
  refine ⟨hone, (filesWithFindings_grown hone).2.2.2.1.1 ?_⟩
  decide

/-- Two files, the first of which comes back. -/
def returningAdditions : List Addition :=
  [.file [trailingAt "a.py" 1], .file [trailingAt "b.py" 1], .file [trailingAt "a.py" 2]]

/-- A file that comes back is counted again, and has two groups. -/
theorem filesWithFindings_returning :
    (∀ addition ∈ returningAdditions, OneFile addition.newFindings) ∧
      (grown returningAdditions).filesWithFindings = 3 ∧
      (grown returningAdditions).distinctFiles = 2 ∧ ¬ (grown returningAdditions).GroupsExact := by
  refine ⟨by decide, by decide, by decide, ?_⟩
  intro h
  have hfirst := congrArg List.length (h (trailingAt "a.py" 1) (by decide))
  revert hfirst
  decide

end Report

end TextHygiene

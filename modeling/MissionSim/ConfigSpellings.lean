import MissionSim.ConfigPaths

/-!
# Spellings of a configuration file

A file has many spellings: empty components and `.` may stand between its names.  The tables are
matched against the spelling, so they agree on all spellings of a file only where they say nothing
about it; of every file they do say something about, one spelling may be edited and another may
not.
-/

namespace Confedit

open Globs List

/-- Does a text end as the names of configuration files do? -/
def IsConfig (s : Text) : Prop := ".yaml".toList <:+ s ∨ ".md".toList <:+ s

instance (s : Text) : Decidable (IsConfig s) := inferInstanceAs (Decidable (_ ∨ _))

variable {s : Text}

theorem IsConfig.last (h : IsConfig s) : s.getLast? = some 'l' ∨ s.getLast? = some 'd' := by
  rcases h with ⟨before, rfl⟩ | ⟨before, rfl⟩
  · exact .inl (getLast?_append_of_ne_nil _ (by decide))
  · exact .inr (getLast?_append_of_ne_nil _ (by decide))

/-- Is this the path of a configuration file, by its name? -/
def Path.IsConfig (p : Path) : Prop := ∃ n ∈ p.names.getLast?, Confedit.IsConfig n

/-- A spelling of a file that the editor accepts, as the editor reads it. -/
def Spells (rp : Text) (p : Path) : Prop := (∃ relpath, resolve relpath = .ok rp) ∧ Path.of rp = p

/-! ### Components -/

variable {names : List Text}

theorem mem_intercalate {c : Char} {n : Text} (hn : n ∈ names) (hc : c ∈ n) :
    c ∈ ['/'].intercalate names := by
  induction names with
  | nil => cases hn
  | cons first rest ih =>
      cases rest with
      | nil =>
          rw [intercalate_singleton]
          rcases mem_cons.mp hn with rfl | hn
          · exact hc
          · cases hn
      | cons second rest =>
          rw [intercalate_cons_cons]
          rcases mem_cons.mp hn with rfl | hn
          · exact mem_append_left _ (mem_append_left _ hc)
          · exact mem_append_right _ (ih hn)

theorem mem_of_mem_intercalate {c : Char} (h : c ∈ ['/'].intercalate names) :
    c = '/' ∨ ∃ n ∈ names, c ∈ n := by
  induction names with
  | nil => cases h
  | cons first rest ih =>
      cases rest with
      | nil =>
          rw [intercalate_singleton] at h
          exact .inr ⟨first, mem_cons_self, h⟩
      | cons second rest =>
          rw [intercalate_cons_cons, mem_append, mem_append] at h
          rcases h with (h | h) | h
          · exact .inr ⟨first, mem_cons_self, h⟩
          · exact .inl (mem_singleton.mp h)
          · exact (ih h).imp_right fun ⟨n, hn, hc⟩ => ⟨n, mem_cons_of_mem _ hn, hc⟩

theorem mem_of_mem_splitOn {s n : Text} (hn : n ∈ s.splitOn '/') {c : Char} (hc : c ∈ n) :
    c ∈ s := by
  have h := mem_intercalate hn hc
  rwa [intercalate_splitOn] at h

/-- An ending without a separator is one of the last component. -/
theorem exists_last {s ending : Text} (h : ending <:+ s) (hslash : '/' ∉ ending) :
    ∃ last ∈ (s.splitOn '/').getLast?, '/' ∉ last ∧ ending <:+ last := by
  by_cases hmem : '/' ∈ s.reverse
  · obtain ⟨after, before, hs, hafter⟩ := eq_append_cons_of_mem hmem
    have hsplit : s = before.reverse ++ '/' :: after.reverse := by
      rw [← reverse_reverse s, hs]
      simp
    have hlast : '/' ∉ after.reverse := fun hin => hafter (mem_reverse.mp hin)
    refine ⟨after.reverse, ?_, hlast, ?_⟩
    · rw [hsplit, splitOn_append_cons_self, splitOn_eq_singleton hlast]
      simp
    · have hsuffix : '/' :: after.reverse <:+ s := hsplit ▸ suffix_append ..
      rcases suffix_or_suffix_of_suffix h hsuffix with hshort | hlong
      · rcases suffix_cons_iff.mp hshort with heq | hin
        · exact absurd (heq ▸ mem_cons_self) hslash
        · exact hin
      · exact absurd (hlong.mem mem_cons_self) hslash
  · rw [mem_reverse] at hmem
    exact ⟨s, by simp [splitOn_eq_singleton hmem], hmem, h⟩

theorem suffix_intercalate {n : Text} (h : n ∈ names.getLast?) : n <:+ ['/'].intercalate names := by
  induction names with
  | nil => cases h
  | cons first rest ih =>
      cases rest with
      | nil =>
          rw [intercalate_singleton]
          exact Option.some.inj h ▸ suffix_rfl
      | cons second rest =>
          rw [intercalate_cons_cons]
          exact (ih (by simpa using h)).trans (suffix_append ..)

theorem getLast?_filter {p : Text → Bool} {n : Text} (h : n ∈ names.getLast?) (hn : p n) :
    n ∈ (names.filter p).getLast? := by
  obtain ⟨before, rfl⟩ := getLast?_eq_some_iff.mp h
  simp [hn]

theorem isName_of_isConfig {n : Text} (h : IsConfig n) (hslash : '/' ∉ n) : IsName n := by
  refine ⟨?_, ?_, hslash⟩
  · rintro rfl
    revert h
    decide
  · rintro rfl
    revert h
    decide

/-- A text that ends as the name of a configuration file spells one. -/
theorem Path.isConfig_of {rp : Text} (h : Confedit.IsConfig rp) : (Path.of rp).IsConfig := by
  have hexists : ∃ last ∈ (rp.splitOn '/').getLast?, '/' ∉ last ∧ Confedit.IsConfig last := by
    rcases h with h | h
    · obtain ⟨last, hlast, hslash, hend⟩ := exists_last h (by decide)
      exact ⟨last, hlast, hslash, .inl hend⟩
    · obtain ⟨last, hlast, hslash, hend⟩ := exists_last h (by decide)
      exact ⟨last, hlast, hslash, .inr hend⟩
  obtain ⟨last, hlast, hslash, hend⟩ := hexists
  exact ⟨last, getLast?_filter hlast (decide_eq_true (isName_of_isConfig hend hslash)), hend⟩

variable {p : Path}

theorem Path.splitOn_text (h : p.names ≠ []) : p.text.splitOn '/' = p.names :=
  splitOn_intercalate _ (fun n hn => (p.valid n hn).2.2) h

theorem Path.isConfig_text (h : p.IsConfig) : Confedit.IsConfig p.text := by
  obtain ⟨n, hn, hend⟩ := h
  have hsuffix := suffix_intercalate hn
  exact hend.imp (·.trans hsuffix) (·.trans hsuffix)

/-! ### Accepted spellings -/

theorem resolve_eq_ok {relpath rp : Text} : resolve relpath = .ok rp ↔
    rp = strip (slashes relpath) ∧ rp.head? ≠ some '/' ∧ rp[1]? ≠ some ':' ∧
      rp ≠ [] ∧ '\x00' ∉ rp ∧ ['.', '.'] ∉ rp.splitOn '/' := by
  simp only [resolve]
  split
  · rename_i h
    simp only [reduceCtorEq, false_iff, not_and]
    rintro rfl hhead hcolon
    exact (h.elim hhead hcolon).elim
  · rename_i h
    rw [not_or] at h
    split
    · rename_i hillegal
      simp only [reduceCtorEq, false_iff, not_and]
      rintro rfl _ _ hnil hnul hdots
      exact hillegal.elim hnil (·.elim hnul hdots)
    · rename_i hlegal
      simp only [not_or] at hlegal
      constructor
      · intro heq
        cases heq
        exact ⟨rfl, h.1, h.2, hlegal⟩
      · rintro ⟨rfl, -⟩
        rfl

theorem mem_of_mem_strip {c : Char} (h : c ∈ strip s) : c ∈ s := by
  have h := (dropWhile_sublist _).mem (mem_reverse.mp h)
  exact (dropWhile_sublist _).mem (mem_reverse.mp h)

theorem not_mem_slashes (s : Text) : '\\' ∉ slashes s := by
  intro h
  obtain ⟨c, -, hc⟩ := mem_map.mp h
  split at hc
  · cases hc
  · rename_i hne
    exact hne hc

theorem slashes_of_not_mem (h : '\\' ∉ s) : slashes s = s := by
  refine (map_congr_left fun c hc => if_neg ?_).trans (map_id s)
  rintro rfl
  exact h hc

/-- An accepted path is looked up as it is. -/
theorem posix_of_resolve {relpath rp : Text} (h : resolve relpath = .ok rp) : posix rp = rp := by
  obtain ⟨rfl, hhead, -⟩ := resolve_eq_ok.mp h
  unfold posix
  rw [slashes_of_not_mem fun hmem => not_mem_slashes relpath (mem_of_mem_strip hmem)]
  cases hs : strip (slashes relpath) with
  | nil => rfl
  | cons c rest =>
      rw [hs, head?_cons] at hhead
      exact dropWhile_cons_of_neg (by simpa using fun heq : c = '/' => hhead (heq ▸ rfl))

theorem not_isSpace_of_some {o : Option Char} {d : Char} (ho : o = some d)
    (hd : isSpace d = false) : ∀ c ∈ o, isSpace c = false := by
  intro c hc
  rw [ho] at hc
  rwa [← Option.some.inj hc]

theorem strip_eq_self (hhead : ∀ c ∈ s.head?, isSpace c = false)
    (hlast : ∀ c ∈ s.getLast?, isSpace c = false) : strip s = s := by
  have hfront : s.dropWhile isSpace = s := by
    cases s with
    | nil => rfl
    | cons c rest => exact dropWhile_cons_of_neg (by simp [hhead c rfl])
  have hback : s.reverse.dropWhile isSpace = s.reverse := by
    cases hs : s.reverse with
    | nil => rfl
    | cons c rest =>
        have hc : c ∈ s.getLast? := by
          rw [← head?_reverse, hs]
          rfl
        exact dropWhile_cons_of_neg (by simp [hlast c hc])
  unfold strip
  rw [hfront, hback, reverse_reverse]

/-- The components of an accepted path are free of what the editor rejects. -/
theorem names_of_resolve {relpath rp : Text} (h : resolve relpath = .ok rp) {n : Text}
    (hn : n ∈ (Path.of rp).names) : n ≠ ['.', '.'] ∧ '\x00' ∉ n ∧ '\\' ∉ n := by
  obtain ⟨hrp, -, -, -, hnul, hdots⟩ := resolve_eq_ok.mp h
  have hmem : n ∈ rp.splitOn '/' := (mem_filter.mp hn).1
  refine ⟨fun heq => hdots (heq ▸ hmem), fun hin => hnul (mem_of_mem_splitOn hmem hin),
    fun hin => ?_⟩
  have hback := mem_of_mem_splitOn hmem hin
  rw [hrp] at hback
  exact not_mem_slashes relpath (mem_of_mem_strip hback)

/-- A path from the configuration directory, written out. -/
def dotted (s : Text) : Text := '.' :: '/' :: s

theorem splitOn_dotted (s : Text) : (dotted s).splitOn '/' = ['.'] :: s.splitOn '/' :=
  splitOn_append_cons_self ['.'] s

theorem splitOn_append_separator (s : Text) :
    (s ++ ['/']).splitOn '/' = s.splitOn '/' ++ [[]] :=
  splitOn_append_cons_self s []

theorem filter_names (p : Path) : p.names.filter (fun n => decide (IsName n)) = p.names :=
  filter_eq_self.mpr fun n hn => decide_eq_true (p.valid n hn)

theorem Path.of_text (h : p.names ≠ []) : Path.of p.text = p := by
  ext1
  show (p.text.splitOn '/').filter (fun n => decide (IsName n)) = p.names
  rw [splitOn_text h, filter_names]

/-- A file whose path ends as a configuration file's is one. -/
theorem Path.isConfig_of_text (h : Confedit.IsConfig p.text) : p.IsConfig := by
  have hne : p.names ≠ [] := by
    intro hnil
    rw [text, hnil] at h
    revert h
    decide
  have hconfig := Path.isConfig_of h
  rwa [of_text hne] at hconfig

theorem of_dotted (h : p.names ≠ []) : Path.of (dotted p.text) = p := by
  ext1
  show ((dotted p.text).splitOn '/').filter (fun n => decide (IsName n)) = p.names
  rw [splitOn_dotted, Path.splitOn_text h, filter_cons_of_neg (by decide), filter_names]

theorem of_dotted_append (h : p.names ≠ []) : Path.of (dotted (p.text ++ ['/'])) = p := by
  ext1
  show ((dotted (p.text ++ ['/'])).splitOn '/').filter (fun n => decide (IsName n)) = p.names
  rw [splitOn_dotted, splitOn_append_separator, Path.splitOn_text h,
    filter_cons_of_neg (by decide), filter_append, filter_names,
    filter_cons_of_neg (by decide), filter_nil, append_nil]

/-- A path from the configuration directory is accepted as it is, up to its end. -/
theorem resolve_dotted (hlast : ∀ c ∈ (dotted s).getLast?, isSpace c = false) (hback : '\\' ∉ s)
    (hnul : '\x00' ∉ s) (hdots : ['.', '.'] ∉ s.splitOn '/') :
    resolve (dotted s) = .ok (dotted s) := by
  have hslashes : slashes (dotted s) = dotted s :=
    slashes_of_not_mem (by simpa [dotted] using hback)
  have hhead : ∀ c ∈ (dotted s).head?, isSpace c = false := not_isSpace_of_some rfl (by decide)
  refine resolve_eq_ok.mpr ⟨?_, by simp [dotted], by simp [dotted], by simp [dotted],
    by simpa [dotted] using hnul, ?_⟩
  · rw [hslashes, strip_eq_self hhead hlast]
  · rw [splitOn_dotted]
    simpa using hdots

/-! ### What the tables say -/

theorem pattern_append (p q : Text) : pattern (p ++ q) = pattern p ++ pattern q := map_append

/-- A character that stands for itself in a pattern. -/
def isPlain (c : Char) : Bool := c ≠ '*' && c ≠ '?'

theorem pattern_plain (h : s.all isPlain) : pattern s = literal s := by
  refine map_congr_left fun c hc => ?_
  have hplain := all_eq_true.mp h c hc
  simp only [isPlain, Bool.and_eq_true, decide_eq_true_eq] at hplain
  rw [if_neg hplain.1, if_neg hplain.2]

/-- What a pattern with a plain end matches ends so. -/
theorem suffix_of_fnmatch {name pat ending : Text} (h : fnmatch name pat) (hend : ending <:+ pat)
    (hplain : ending.all isPlain) : ending <:+ name := by
  obtain ⟨before, rfl⟩ := hend
  unfold fnmatch at h
  rw [pattern_append, pattern_plain hplain] at h
  exact suffix_of_accepts h

theorem isConfig_of_fnmatch {name pat : Text} (h : fnmatch name pat) (hpat : IsConfig pat) :
    IsConfig name :=
  hpat.imp (suffix_of_fnmatch h · (by decide)) (suffix_of_fnmatch h · (by decide))

theorem isConfig_of_editable :
    ∀ rule ∈ table ++ fallbacks, rule.editable → IsConfig rule.pattern := by
  decide

theorem restartScope_of_not_editable :
    ∀ rule ∈ table ++ fallbacks, ¬ rule.editable → rule.restartScope = [] := by
  decide

theorem isConfig_schemaMap : ∀ entry ∈ schemaMap, IsConfig entry.1 := by decide

theorem isConfig_plausibilityMap : ∀ entry ∈ plausibilityMap, IsConfig entry.1 := by decide

theorem isConfig_files : ∀ check ∈ checkIds, ∀ file ∈ check.files, IsConfig file := by decide

/-- The decisions for a path that no table knows. -/
def barred : Decisions := ⟨false, [], none, none, [], false⟩

theorem classify_mem (rp : Text) : classify rp ∈ table ++ fallbacks ∧
    (fnmatch (posix rp) (classify rp).pattern ∨ classify rp = unclassified) := by
  unfold classify
  cases hfind : (table ++ fallbacks).find? fun rule => fnmatch (posix rp) rule.pattern with
  | none => exact ⟨by decide, .inr rfl⟩
  | some rule =>
      have hmatch : fnmatch (posix rp) rule.pattern = true :=
        find?_some (p := fun rule : FileClass => fnmatch (posix rp) rule.pattern) hfind
      exact ⟨mem_of_find?_eq_some hfind, .inl hmatch⟩

theorem isConfig_of_classify {rp : Text} (h : (classify rp).editable) : IsConfig (posix rp) := by
  obtain ⟨hmem, hmatch | hlast⟩ := classify_mem rp
  · exact isConfig_of_fnmatch hmatch (isConfig_of_editable _ hmem h)
  · rw [hlast] at h
    cases h

theorem schemaModelFor_of_not {rp : Text} (h : ¬ IsConfig (posix rp)) :
    schemaModelFor rp = none := by
  have hfind : schemaMap.find? (fun entry => fnmatch (posix rp) entry.1) = none :=
    find?_eq_none.mpr fun entry hentry hmatch =>
      h (isConfig_of_fnmatch hmatch (isConfig_schemaMap entry hentry))
  have hend : endsWith (posix rp) ".yaml".toList = false := by
    rw [← Bool.not_eq_true]
    exact fun hyaml => h (.inl (isSuffixOf_iff_suffix.mp hyaml))
  simp only [schemaModelFor, hfind, hend, Bool.and_false]
  rfl

/-- **A text with another ending is barred.** -/
theorem decisions_of_not {rp : Text} (h : ¬ IsConfig (posix rp)) : decisions rp = barred := by
  have heditable : (classify rp).editable = false := by
    rw [← Bool.not_eq_true]
    exact fun heditable => h (isConfig_of_classify heditable)
  have hscope : (classify rp).restartScope = [] :=
    restartScope_of_not_editable _ (classify_mem rp).1 (by simp [heditable])
  have hplausibility : plausibilityMap.lookup (posix rp) = none := by
    rw [lookup_eq_none_iff]
    intro entry hentry
    rw [bne_iff_ne]
    exact fun heq => h (heq ▸ isConfig_plausibilityMap entry hentry)
  have hchecks : checksFor (posix rp) = [] := by
    refine filter_eq_nil_iff.mpr fun check hcheck hfile => ?_
    exact h (isConfig_files check hcheck _ (of_decide_eq_true hfile))
  have hmarkdown : endsWith (posix rp) ".md".toList = false := by
    rw [← Bool.not_eq_true]
    exact fun hmd => h (.inr (isSuffixOf_iff_suffix.mp hmd))
  unfold decisions barred
  rw [heditable, hscope, schemaModelFor_of_not h, hplausibility, hchecks, hmarkdown]

/-- A pattern that leaves the directory and the beginning of the name open. -/
theorem fnmatch_dotted {s ending : Text} (h : ending <:+ s)
    (hplain : ending.all isPlain) : fnmatch (dotted s) ("**/*".toList ++ ending) := by
  obtain ⟨before, rfl⟩ := h
  unfold fnmatch
  rw [pattern_append, pattern_plain hplain]
  refine accepts_any_append ?_ ['.']
  refine accepts_any.mpr ⟨_, suffix_rfl, accepts_exactly.mpr ⟨_, rfl, ?_⟩⟩
  exact accepts_any_append (accepts_literal.mpr rfl) before

/-- What the patterns of the rules against editing begin or end with. -/
theorem protectedRules_ends : ∀ rule ∈ protectedRules,
    (rule.pattern.head?.any fun c => isPlain c && c ≠ '.') ∨
      ".DS_Store".toList <:+ rule.pattern := by
  decide

theorem posix_dotted (h : '\\' ∉ s) : posix (dotted s) = dotted s := by
  unfold posix
  rw [slashes_of_not_mem (by simpa [dotted] using h)]
  rfl

/-- No rule against editing knows a path from the configuration directory. -/
theorem protectedRules_dotted (h : IsConfig s) {rule : FileClass} (hrule : rule ∈ protectedRules) :
    ¬ fnmatch (dotted s) rule.pattern := by
  intro hmatch
  rcases protectedRules_ends rule hrule with hfirst | hstore
  · obtain ⟨c, hc, hfirst⟩ := (Option.any_eq_true _ _).mp hfirst
    obtain ⟨rest, hrest⟩ := head?_eq_some_iff.mp hc
    simp only [isPlain, Bool.and_eq_true, decide_eq_true_eq] at hfirst
    unfold fnmatch at hmatch
    rw [hrest, pattern, map_cons, if_neg hfirst.1.1, if_neg hfirst.1.2] at hmatch
    obtain ⟨t, ht, -⟩ := accepts_exactly.mp hmatch
    exact hfirst.2 (cons.inj ht).1.symm
  · have hds : ".DS_Store".toList <:+ dotted s := suffix_of_fnmatch hmatch hstore (by decide)
    have hs : s <:+ dotted s := suffix_append ['.', '/'] s
    rcases h with h | h
    · have hboth := suffix_or_suffix_of_suffix hds (h.trans hs)
      revert hboth
      decide
    · have hboth := suffix_or_suffix_of_suffix hds (h.trans hs)
      revert hboth
      decide

/-- **From the configuration directory every configuration file can be edited.** -/
theorem editable_dotted (h : IsConfig s) (hback : '\\' ∉ s) : (classify (dotted s)).editable := by
  have hnone : protectedRules.find? (fun rule => fnmatch (dotted s) rule.pattern) = none :=
    find?_eq_none.mpr fun _ hrule => protectedRules_dotted h hrule
  have hopen : ∃ rule ∈ editableRules ++ [unclassifiedYaml], fnmatch (dotted s) rule.pattern := by
    rcases h with h | h
    · exact ⟨unclassifiedYaml, by simp, fnmatch_dotted h (by decide)⟩
    · exact ⟨⟨"**/*.md".toList, "Documentation", true, [], ""⟩, by decide,
        fnmatch_dotted h (by decide)⟩
  have hrules : table ++ fallbacks =
      protectedRules ++ ((editableRules ++ [unclassifiedYaml]) ++ [unclassified]) := rfl
  unfold classify
  rw [posix_dotted hback, hrules, find?_append, hnone, Option.none_or, find?_append]
  cases hfind : (editableRules ++ [unclassifiedYaml]).find? fun rule =>
      fnmatch (dotted s) rule.pattern with
  | none =>
      obtain ⟨rule, hmem, hmatch⟩ := hopen
      exact absurd hmatch (find?_eq_none.mp hfind rule hmem)
  | some rule =>
      have heditable : ∀ rule ∈ editableRules ++ [unclassifiedYaml], rule.editable := by decide
      exact heditable rule (mem_of_find?_eq_some hfind)

/-! ### The spellings of one file -/

section Spelled

variable {p : Path} {rp : Text}

theorem Path.IsConfig.names_ne_nil (h : p.IsConfig) : p.names ≠ [] := by
  obtain ⟨n, hn, -⟩ := h
  rintro heq
  rw [heq] at hn
  cases hn

theorem Spells.posix_eq (h : Spells rp p) : posix rp = rp := by
  obtain ⟨⟨relpath, hresolve⟩, -⟩ := h
  exact posix_of_resolve hresolve

theorem Spells.clean (h : Spells rp p) :
    '\\' ∉ p.text ∧ '\x00' ∉ p.text ∧ ['.', '.'] ∉ p.names := by
  obtain ⟨⟨relpath, hresolve⟩, rfl⟩ := h
  have hnames := fun n => names_of_resolve hresolve (n := n)
  refine ⟨fun hmem => ?_, fun hmem => ?_, fun hmem => (hnames _ hmem).1 rfl⟩
  · rcases mem_of_mem_intercalate hmem with heq | ⟨n, hn, hc⟩
    · cases heq
    · exact (hnames n hn).2.2 hc
  · rcases mem_of_mem_intercalate hmem with heq | ⟨n, hn, hc⟩
    · cases heq
    · exact (hnames n hn).2.1 hc

/-- **A configuration file can be spelled from the configuration directory.** -/
theorem Spells.dotted (h : Spells rp p) (hconfig : p.IsConfig) : Spells (dotted p.text) p := by
  obtain ⟨hback, hnul, hdots⟩ := h.clean
  have hne := hconfig.names_ne_nil
  have hlast : ∀ c ∈ (Confedit.dotted p.text).getLast?, isSpace c = false := by
    have hsuffix : p.text <:+ Confedit.dotted p.text := suffix_append ['.', '/'] _
    have htext := Path.isConfig_text hconfig
    have hdotted : Confedit.IsConfig (Confedit.dotted p.text) :=
      htext.imp (·.trans hsuffix) (·.trans hsuffix)
    rcases hdotted.last with heq | heq
    · exact not_isSpace_of_some heq (by decide)
    · exact not_isSpace_of_some heq (by decide)
  refine ⟨⟨_, resolve_dotted hlast hback hnul ?_⟩, of_dotted hne⟩
  rwa [Path.splitOn_text hne]

/-- A configuration file can be spelled as if it were a directory. -/
theorem Spells.dotted_append (h : Spells rp p) (hconfig : p.IsConfig) :
    Spells (Confedit.dotted (p.text ++ ['/'])) p := by
  obtain ⟨hback, hnul, hdots⟩ := h.clean
  have hne := hconfig.names_ne_nil
  have hlast : ∀ c ∈ (Confedit.dotted (p.text ++ ['/'])).getLast?, isSpace c = false :=
    not_isSpace_of_some (getLast?_concat (l := Confedit.dotted p.text)) (by decide)
  refine ⟨⟨_, resolve_dotted hlast ?_ ?_ ?_⟩, of_dotted_append hne⟩
  · simpa using hback
  · simpa using hnul
  · rw [splitOn_append_separator, Path.splitOn_text hne]
    simpa using hdots

/-- A path that ends with a separator is barred. -/
theorem decisions_dotted_append (h : Spells rp p) (hconfig : p.IsConfig) :
    decisions (dotted (p.text ++ ['/'])) = barred := by
  refine decisions_of_not ?_
  rw [(h.dotted_append hconfig).posix_eq]
  show ¬ IsConfig (dotted p.text ++ ['/'])
  intro hend
  have hlast := hend.last
  rw [getLast?_concat] at hlast
  revert hlast
  decide

/-- Every spelling of a file that is not a configuration file is barred. -/
theorem barred_of_not (h : Spells rp p) (hconfig : ¬ p.IsConfig) : decisions rp = barred := by
  refine decisions_of_not fun hend => hconfig ?_
  rw [h.posix_eq] at hend
  exact h.2 ▸ Path.isConfig_of hend

/-- **The spellings of a file agree just where none of them is in a table.** -/
theorem decisions_eq_iff (h : Spells rp p) :
    (∀ rq rr, Spells rq p → Spells rr p → decisions rq = decisions rr) ↔ ¬ p.IsConfig := by
  constructor
  · intro hagree hconfig
    have heditable := editable_dotted (Path.isConfig_text hconfig) h.clean.1
    have heq := hagree _ _ (h.dotted hconfig) (h.dotted_append hconfig)
    rw [decisions_dotted_append h hconfig] at heq
    have hbarred : (classify (dotted p.text)).editable = false := congrArg Decisions.editable heq
    rw [hbarred] at heditable
    cases heditable
  · intro hconfig rq rr hrq hrr
    rw [barred_of_not hrq hconfig, barred_of_not hrr hconfig]

/-- A path is plain when it is the components of the file and nothing else. -/
def Plain (rp : Text) : Prop := rp = (Path.of rp).text

instance (rp : Text) : Decidable (Plain rp) := inferInstanceAs (Decidable (_ = _))

end Spelled

end Confedit

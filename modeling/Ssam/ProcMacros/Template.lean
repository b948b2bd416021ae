import Ssam.Lib.Toml
import Ssam.ProcMacros.Lines
import Ssam.Utils

/-!
# The Printed Configuration

The default configuration a package author is shown is made from the template the
configuration types are generated from. A marker in the template says that the key
or the table defined next is optional. The text that is printed has such a line as a
comment.

The rewriting goes line by line. What a key means depends on the header it stands
under, so a header that becomes a comment leaves its keys to the table above it,
unless each of them has a marker of its own.

## Main definitions

* `replaceOptionalComment`: The text that is printed.
* `extractOptionalKeys`: The keys and tables a template marks.
* `LineReader`: A reader of the lines of a configuration.
* `wellMarked`: Each marker is followed by the line it is about.

## Theorems

* `lines_replaceOptionalComment`: The lines of the printed text.
* `map_read_replaceLines`: What is printed is the template without the marked lines.
* `replaceOptionalComment_iff`: When the printed text means the template without
  the optional keys.
-/

namespace Ssam

namespace ProcMacros

open Lib.Toml

section Code

def optionalCommentPrefix : List Char := "#:Opt:#".toList

/-- The text after `pre`, if `s` begins with it. -/
def stripPrefix (pre s : List Char) : Option (List Char) :=
  if pre.isPrefixOf s then some (s.drop pre.length) else none

/-- What a marker says, if the line is one. -/
def optionalKey (line : List Char) : Option (List Char) :=
  (stripPrefix optionalCommentPrefix (trim line)).map trim

/-- Extracts optional keys from the comments of a template. -/
def extractOptionalKeys (rootName tomlStr : String) : List String :=
  ((lines tomlStr).filterMap optionalKey).map fun key => rootName ++ "." ++ String.ofList key

/-- The two loops of the replacement. The inner one runs where `pending` is set: it
    looks for the line a marker is about. -/
def replaceLines : Bool → List (List Char) → List (List Char)
  | _, [] => []
  | false, line :: rest =>
      if (stripPrefix optionalCommentPrefix (trim line)).isSome then
        "# Optional".toList :: replaceLines true rest
      else trim line :: replaceLines false rest
  | true, line :: rest =>
      let trimmed := trim line
      if (stripPrefix ['#'] trimmed).isSome then trimmed :: replaceLines true rest
      else if !trimmed.isEmpty then ("# ".toList ++ trimmed) :: replaceLines false rest
      else replaceLines true rest

/-- Replaces optional comment markers with regular comments. -/
def replaceOptionalComment (orig : String) : String :=
  String.ofList (['\n'].intercalate (replaceLines false (lines orig)) ++ ['\n'])

/-- The name of a field in the types generated from a template, as the optional keys
    are compared with it. -/
def fieldTree (root : String) (path : Path) : String :=
  path.foldl (fun pre key => pre ++ "." ++ key) root

end Code

section Template

variable {V : Type*}

/-- A reader of the lines of a configuration, and what it makes of white space and
    comments. A line that is no header, no key with its value, no comment and not
    blank is not read. -/
structure LineReader (V : Type*) where
  read : List Char → Option (Item V)
  read_nil : read [] = some .nothing
  read_optional : read "# Optional".toList = some .nothing
  /-- White space around a line is of no matter. -/
  read_trim : ∀ {line item}, read line = some item → read (trim line) = some item
  /-- A line that can be read can stand in a comment. -/
  read_comment : ∀ {line item}, read line = some item →
    read ("# ".toList ++ trim line) = some .nothing
  /-- Only blank lines and comments define nothing. -/
  nothing_iff : ∀ {line item}, read line = some item →
    (item = .nothing ↔ trim line = [] ∨ (trim line).head? = some '#')

/-- The items of a template. Marked are those that follow a marker, with nothing but
    comments and blank lines between. -/
def annotate (R : LineReader V) : Bool → List (List Char) → List (Bool × Item V)
  | _, [] => []
  | pending, line :: rest =>
      match R.read line with
      | some (.header path) => (pending, .header path) :: annotate R false rest
      | some (.keyVal key value) => (pending, .keyVal key value) :: annotate R false rest
      | _ => (pending, .nothing) :: annotate R (pending || (optionalKey line).isSome) rest

/-- The first line that defines something, below the header of `cur`, defines the
    field `tree`. -/
def definesNext (R : LineReader V) (root tree : String) (cur : Path) : List (List Char) → Bool
  | [] => false
  | line :: rest =>
      match R.read line with
      | some (.header path) => fieldTree root path = tree
      | some (.keyVal key _) => fieldTree root (cur ++ key) = tree
      | _ => definesNext R root tree cur rest

/-- The table that is open after a line. -/
def tableAfter (R : LineReader V) (cur : Path) (line : List Char) : Path :=
  match R.read line with
  | some (.header path) => path
  | _ => cur

/-- Each marker is followed by the line that defines what it names. -/
def wellMarked (R : LineReader V) (root : String) : Path → List (List Char) → Bool
  | _, [] => true
  | cur, line :: rest =>
      ((optionalKey line).all fun key =>
        definesNext R root (root ++ "." ++ String.ofList key) cur rest) &&
      wellMarked R root (tableAfter R cur line) rest

/-- The statements of a template, each with whether a marker stands before it. -/
def statements (R : LineReader V) (text : String) : List (Bool × Stmt V) :=
  marked [] (annotate R false (lines text))

/-- The paths of the optional keys and tables. -/
def optionalPaths (root text : String) : Set Path :=
  { path | fieldTree root path ∈ extractOptionalKeys root text }

end Template

section Replacing

theorem isSome_stripPrefix_hash {s : List Char} :
    (stripPrefix ['#'] s).isSome ↔ s.head? = some '#' := by
  cases s with
  | nil => decide
  | cons c s =>
      by_cases hc : c = '#'
      · subst hc
        exact ⟨fun _ => rfl, fun _ => rfl⟩
      · simp [stripPrefix, List.isPrefixOf, hc, Ne.symm hc]

/-- A marker is a comment. -/
theorem head?_of_marker {line : List Char}
    (h : (stripPrefix optionalCommentPrefix (trim line)).isSome) :
    (trim line).head? = some '#' := by
  unfold stripPrefix at h
  split at h
  · rename_i hprefix
    rcases List.isPrefixOf_iff_prefix.mp hprefix with ⟨t, ht⟩
    rw [← ht]
    rfl
  · cases h

theorem isSome_optionalKey (line : List Char) :
    (optionalKey line).isSome = (stripPrefix optionalCommentPrefix (trim line)).isSome :=
  Option.isSome_map

/-- What is printed: the note, and the lines as they are or in a comment. -/
theorem mem_replaceLines {pending : Bool} {ls : List (List Char)} {l : List Char}
    (h : l ∈ replaceLines pending ls) :
    l = "# Optional".toList ∨ ∃ line ∈ ls, l = trim line ∨
      trim line ≠ [] ∧ l = "# ".toList ++ trim line := by
  induction ls generalizing pending with
  | nil => cases pending <;> cases h
  | cons line ls ih =>
      have hrest : ∀ {next}, l ∈ replaceLines next ls → l = "# Optional".toList ∨
          ∃ line' ∈ line :: ls, l = trim line' ∨
            trim line' ≠ [] ∧ l = "# ".toList ++ trim line' := fun hl =>
        (ih hl).imp_right fun ⟨line', hline', heq⟩ => ⟨line', .tail _ hline', heq⟩
      cases pending with
      | false =>
          rw [replaceLines] at h
          split at h
          · exact (List.mem_cons.mp h).elim .inl hrest
          · exact (List.mem_cons.mp h).elim
              (fun heq => .inr ⟨line, List.mem_cons_self, .inl heq⟩) hrest
      | true =>
          rw [replaceLines] at h
          split at h
          · exact (List.mem_cons.mp h).elim
              (fun heq => .inr ⟨line, List.mem_cons_self, .inl heq⟩) hrest
          · split at h
            · rename_i hne
              rw [Bool.not_eq_true', List.isEmpty_eq_false_iff] at hne
              exact (List.mem_cons.mp h).elim
                (fun heq => .inr ⟨line, List.mem_cons_self, .inr ⟨hne, heq⟩⟩) hrest
            · exact hrest h

/-- The lines of the printed text are those that were put together. -/
theorem lines_replaceOptionalComment (text : String) :
    lines (replaceOptionalComment text) = replaceLines false (lines text) ∨
      lines (replaceOptionalComment text) = [[]] ∧ replaceLines false (lines text) = [] := by
  by_cases hnil : replaceLines false (lines text) = []
  · refine .inr ⟨?_, hnil⟩
    rw [replaceOptionalComment, hnil]
    decide
  have hcr : ∀ line : List Char, (trim line).getLast? ≠ some '\r' := fun line h =>
    absurd (isWhitespace_getLast?_trim h) (by decide)
  -- A printed line is made of one line, trimmed, so it is one line when read again.
  refine .inl (lines_intercalate hnil (fun l hl => ?_) fun l hl => ?_)
  · rcases mem_replaceLines hl with rfl | ⟨line, hline, rfl | ⟨-, rfl⟩⟩
    · decide
    · exact fun h => feed_not_mem_of_mem_lines line hline (mem_of_mem_trim h)
    · rw [List.mem_append]
      exact not_or.mpr ⟨by decide, fun h =>
        feed_not_mem_of_mem_lines line hline (mem_of_mem_trim h)⟩
  · rcases mem_replaceLines hl with rfl | ⟨line, hline, rfl | ⟨hne, rfl⟩⟩
    · decide
    · exact hcr line
    · rw [List.getLast?_append_of_ne_nil _ hne]
      exact hcr line

end Replacing

section Reading

variable {V : Type*} {R : LineReader V} {line : List Char} {ls : List (List Char)}

theorem annotate_nothing (h : R.read line = some .nothing) (pending : Bool)
    (ls : List (List Char)) :
    annotate R pending (line :: ls) =
      (pending, .nothing) :: annotate R (pending || (optionalKey line).isSome) ls := by
  simp only [annotate, h]

theorem annotate_item {item : Item V} (h : R.read line = some item) (hitem : item ≠ .nothing)
    (pending : Bool) (ls : List (List Char)) :
    annotate R pending (line :: ls) = (pending, item) :: annotate R false ls := by
  cases item with
  | nothing => exact absurd rfl hitem
  | header path => simp only [annotate, h]
  | keyVal key value => simp only [annotate, h]

/-- At a comment or a blank line, no more than a comment is printed. -/
theorem replaceLines_nothing (h : R.read line = some .nothing) (pending : Bool)
    (ls : List (List Char)) :
    ∃ printed, replaceLines pending (line :: ls) =
        printed ++ replaceLines (pending || (optionalKey line).isSome) ls ∧
      ∀ l ∈ printed, R.read l = some .nothing := by
  have htrim := R.read_trim h
  cases pending with
  | false =>
      rw [replaceLines, Bool.false_or, isSome_optionalKey]
      split
      · rename_i hmarker
        rw [hmarker]
        exact ⟨["# Optional".toList], rfl, List.forall_mem_singleton.mpr R.read_optional⟩
      · rename_i hmarker
        rw [Bool.not_eq_true] at hmarker
        rw [hmarker]
        exact ⟨[trim line], rfl, List.forall_mem_singleton.mpr htrim⟩
  | true =>
      rw [replaceLines, Bool.true_or]
      split
      · exact ⟨[trim line], rfl, List.forall_mem_singleton.mpr htrim⟩
      · rename_i hhash
        rw [isSome_stripPrefix_hash] at hhash
        have hnil := ((R.nothing_iff h).mp rfl).resolve_right hhash
        rw [hnil]
        exact ⟨[], rfl, List.forall_mem_nil _⟩

/-- A line that defines something is printed, in a comment if a marker stands before it. -/
theorem replaceLines_item {item : Item V} (h : R.read line = some item)
    (hitem : item ≠ .nothing) (pending : Bool) (ls : List (List Char)) :
    replaceLines pending (line :: ls) =
      (if pending then "# ".toList ++ trim line else trim line) :: replaceLines false ls := by
  have hnot : ¬ (trim line = [] ∨ (trim line).head? = some '#') := mt (R.nothing_iff h).mpr hitem
  rw [not_or] at hnot
  cases pending with
  | false => rw [replaceLines, if_neg (mt head?_of_marker hnot.2), if_neg Bool.false_ne_true]
  | true =>
      have hne : (!(trim line).isEmpty) = true := by
        rw [Bool.not_eq_true', List.isEmpty_eq_false_iff]
        exact hnot.1
      rw [replaceLines, if_neg (mt isSome_stripPrefix_hash.mp hnot.2), if_pos hne, if_pos rfl]

theorem map_snd_annotate {items : List (Item V)} (hread : ls.map R.read = items.map some)
    (pending : Bool) : (annotate R pending ls).map Prod.snd = items := by
  induction ls generalizing items pending with
  | nil => exact (List.map_eq_nil_iff.mp hread.symm).symm ▸ rfl
  | cons line ls ih =>
      cases items with
      | nil => cases hread
      | cons item items =>
          rw [List.map_cons, List.map_cons, List.cons.injEq] at hread
          by_cases hitem : item = .nothing
          · subst hitem
            rw [annotate_nothing hread.1]
            exact congrArg _ (ih hread.2 _)
          · rw [annotate_item hread.1 hitem]
            exact congrArg _ (ih hread.2 _)

theorem scan_append_nothing {printed : List (Item V)} (h : ∀ item ∈ printed, item = .nothing)
    (items : List (Item V)) (cur : Path) : scan cur (printed ++ items) = scan cur items := by
  induction printed with
  | nil => rfl
  | cons item printed ih =>
      rcases List.forall_mem_cons.mp h with ⟨rfl, hrest⟩
      exact ih hrest

/-- What is printed reads as the template without the marked lines. -/
theorem map_read_replaceLines (hread : ∀ l ∈ ls, ∃ item, R.read l = some item)
    (pending : Bool) :
    ∃ items, (replaceLines pending ls).map R.read = items.map some ∧
      ∀ cur, scan cur items = scan cur (kept (annotate R pending ls)) := by
  induction ls generalizing pending with
  | nil =>
      cases pending with
      | false => exact ⟨[], rfl, fun _ => rfl⟩
      | true => exact ⟨[], rfl, fun _ => rfl⟩
  | cons line ls ih =>
      rw [List.forall_mem_cons] at hread
      rcases hread with ⟨⟨item, hline⟩, hrest⟩
      by_cases hitem : item = .nothing
      -- A comment or a blank line changes at most whether a marker is pending.
      · subst hitem
        rcases replaceLines_nothing hline pending ls with ⟨printed, heq, hprinted⟩
        rcases ih hrest (pending || (optionalKey line).isSome) with ⟨items, hmap, hscan⟩
        refine ⟨printed.map (fun _ => .nothing) ++ items, ?_, fun cur => ?_⟩
        · rw [heq, List.map_append, List.map_append, hmap, List.map_map]
          exact congrArg (· ++ _) (List.map_congr_left hprinted)
        · rw [scan_append_nothing (by simp), hscan, annotate_nothing hline]
          cases pending with
          | false => rfl
          | true => rfl
      · rcases ih hrest false with ⟨items, hmap, hscan⟩
        rw [replaceLines_item hline hitem, annotate_item hline hitem]
        cases pending with
        | false =>
            refine ⟨item :: items, ?_, fun cur => ?_⟩
            · rw [List.map_cons, List.map_cons, hmap, if_neg Bool.false_ne_true,
                R.read_trim hline]
            · cases item with
              | nothing => exact absurd rfl hitem
              | header path => exact congrArg (Stmt.table path :: ·) (hscan path)
              | keyVal key value => exact congrArg (Stmt.leaf cur key value :: ·) (hscan cur)
        | true =>
            -- The line a marker is about is printed in a comment, and the marker is done with.
            refine ⟨.nothing :: items, ?_, hscan⟩
            rw [List.map_cons, List.map_cons, hmap, if_pos rfl, R.read_comment hline]

/-- Each marked statement is one that a marker names. -/
theorem fieldTree_mem_of_marked {root : String} {names : List String} {cur : Path}
    (hread : ∀ l ∈ ls, ∃ item, R.read l = some item)
    (hnames : ∀ l ∈ ls, ∀ key ∈ optionalKey l, root ++ "." ++ String.ofList key ∈ names)
    (hmarks : wellMarked R root cur ls = true) {pending : Bool}
    (hpending : pending = true → ∃ tree ∈ names, definesNext R root tree cur ls = true) :
    ∀ s, (true, s) ∈ marked cur (annotate R pending ls) → fieldTree root s.path ∈ names := by
  induction ls generalizing cur pending with
  | nil =>
      intro s hs
      cases pending <;> cases hs
  | cons line ls ih =>
      rw [List.forall_mem_cons] at hread hnames
      rcases hread with ⟨⟨item, hline⟩, hrest⟩
      rw [wellMarked, Bool.and_eq_true, Option.all_eq_true] at hmarks
      rcases hmarks with ⟨hnext, hmarks⟩
      have hlater : ∀ next, wellMarked R root next ls = true →
          ∀ s, (true, s) ∈ marked next (annotate R false ls) → fieldTree root s.path ∈ names :=
        fun _ hnext => ih hrest hnames.2 hnext fun h => absurd h Bool.false_ne_true
      cases item with
      | nothing =>
          -- A marker begins to be pending, or stays so, until the next statement.
          rw [annotate_nothing hline]
          rw [tableAfter, hline] at hmarks
          refine ih hrest hnames.2 hmarks fun h => ?_
          rcases Bool.or_eq_true_iff.mp h with h | h
          · rcases hpending h with ⟨tree, htree, hdefines⟩
            rw [definesNext, hline] at hdefines
            exact ⟨tree, htree, hdefines⟩
          · rcases Option.isSome_iff_exists.mp h with ⟨key, hkey⟩
            exact ⟨_, hnames.1 key hkey, hnext key hkey⟩
      | header path =>
          rw [annotate_item hline (by simp)]
          rw [tableAfter, hline] at hmarks
          intro s hs
          rcases List.mem_cons.mp hs with heq | hs
          · rw [Prod.mk.injEq] at heq
            rcases hpending heq.1.symm with ⟨tree, htree, hdefines⟩
            rw [definesNext, hline, decide_eq_true_eq] at hdefines
            rw [heq.2, Stmt.path, hdefines]
            exact htree
          · exact hlater _ hmarks s hs
      | keyVal key value =>
          rw [annotate_item hline (by simp)]
          rw [tableAfter, hline] at hmarks
          intro s hs
          rcases List.mem_cons.mp hs with heq | hs
          · rw [Prod.mk.injEq] at heq
            rcases hpending heq.1.symm with ⟨tree, htree, hdefines⟩
            rw [definesNext, hline, decide_eq_true_eq] at hdefines
            rw [heq.2, Stmt.path, hdefines]
            exact htree
          · exact hlater _ hmarks s hs

theorem nil_not_mem_optionalPaths (root text : String) : [] ∉ optionalPaths root text := by
  intro h
  rcases List.mem_map.mp h with ⟨key, -, hkey⟩
  have hlength := congrArg String.length hkey
  rw [fieldTree, List.foldl_nil, String.length_append, String.length_append] at hlength
  have hdot : (".").length = 1 := rfl
  omega

/-- The printed text reads as the template without the marked lines. -/
theorem map_read_replaceOptionalComment {text : String}
    (hread : ∀ l ∈ lines text, ∃ item, R.read l = some item) :
    ∃ items, (lines (replaceOptionalComment text)).map R.read = items.map some ∧
      scan [] items = scan [] (kept (annotate R false (lines text))) := by
  rcases map_read_replaceLines hread false with ⟨items, hmap, hscan⟩
  rcases lines_replaceOptionalComment text with hlines | ⟨hlines, hnil⟩
  · exact ⟨items, hlines ▸ hmap, hscan []⟩
  · -- Nothing is left to print, and an empty line is printed.
    rw [hnil, List.map_nil] at hmap
    rw [← hscan [], List.map_eq_nil_iff.mp hmap.symm, hlines]
    exact ⟨[.nothing], congrArg (· :: []) R.read_nil, rfl⟩

/-- Where each marker is followed by the line it is about, the printed text means the
    template without the optional keys and tables exactly where every line that defines
    something at or below an optional path has a marker of its own, and every table
    above such a line is above a line without a marker, or optional itself. -/
theorem replaceOptionalComment_iff (R : LineReader V) (root text : String) {doc : Doc V}
    (hparses : Parses R.read (lines text) doc) (hmarks : wellMarked R root [] (lines text) = true) :
    Parses R.read (lines (replaceOptionalComment text)) (doc.erase (optionalPaths root text)) ↔
      Closed (optionalPaths root text) (statements R text) ∧
        TablesStay (optionalPaths root text) (statements R text) := by
  rcases hparses with ⟨items, hitems, hvalid, rfl⟩
  have hread : ∀ l ∈ lines text, ∃ item, R.read l = some item := by
    intro l hl
    have hmem : R.read l ∈ items.map some := hitems ▸ List.mem_map_of_mem hl
    rcases List.mem_map.mp hmem with ⟨item, -, hitem⟩
    exact ⟨item, hitem.symm⟩
  have hnames : ∀ l ∈ lines text, ∀ key ∈ optionalKey l,
      root ++ "." ++ String.ofList key ∈ extractOptionalKeys root text := fun l hl key hkey =>
    List.mem_map.mpr ⟨key, List.mem_filterMap.mpr ⟨l, hl, hkey⟩, rfl⟩
  have hmarked : ∀ s, (true, s) ∈ statements R text → s.path ∈ optionalPaths root text :=
    fieldTree_mem_of_marked hread hnames hmarks fun h => absurd h Bool.false_ne_true
  rcases map_read_replaceOptionalComment hread with ⟨printed, hprinted, hscan⟩
  rw [parses_iff hprinted, hscan, ← map_snd_annotate hitems false]
  rw [← map_snd_annotate hitems false] at hvalid
  exact erase_iff (nil_not_mem_optionalPaths root text) hmarked hvalid

end Reading

section Plain

/-- The keys of a dotted key without quotes. -/
def dottedKey (s : List Char) : Path := (s.splitOn '.').map fun key => String.ofList (trim key)

/-- What a line is, where no key has quotes. A value is the text that is written. -/
def readLine (line : List Char) : Option (Item (List Char)) :=
  match trim line with
  | [] => some .nothing
  | '#' :: _ => some .nothing
  | '[' :: rest =>
      if rest.getLast? = some ']' then some (.header (dottedKey rest.dropLast)) else none
  | s =>
      if '=' ∈ s then
        some (.keyVal (dottedKey (s.takeWhile (· ≠ '=')))
          (trim ((s.dropWhile (· ≠ '=')).drop 1)))
      else none

theorem readLine_nothing_iff {line : List Char} {item : Item (List Char)}
    (h : readLine line = some item) :
    item = .nothing ↔ trim line = [] ∨ (trim line).head? = some '#' := by
  unfold readLine at h
  split at h
  · rename_i hnil
    exact ⟨fun _ => .inl hnil, fun _ => (Option.some.inj h).symm⟩
  · rename_i hcons
    exact ⟨fun _ => .inr (hcons ▸ rfl), fun _ => (Option.some.inj h).symm⟩
  · rename_i hcons
    rw [hcons]
    split at h
    · rw [← Option.some.inj h]
      simp
    · cases h
  · rename_i hnil hhash _
    have hhead : ¬ (trim line).head? = some '#' := fun hhead => by
      rcases List.head?_eq_some_iff.mp hhead with ⟨t, ht⟩
      exact hhash t ht
    split at h
    · rw [← Option.some.inj h]
      exact ⟨nofun, fun h => (h.elim hnil hhead).elim⟩
    · cases h

theorem readLine_comment (s : List Char) : readLine ("# ".toList ++ s) = some .nothing := by
  rcases List.head?_eq_some_iff.mp
    (head?_trim_cons (show isWhitespace '#' = false by decide) (' ' :: s)) with ⟨t, ht⟩
  change readLine ('#' :: ' ' :: s) = some .nothing
  rw [readLine, ht]
  rfl

/-- A reader of lines without quoted keys. -/
def plainReader : LineReader (List Char) where
  read := readLine
  read_nil := rfl
  read_optional := by decide
  read_trim h := by
    rw [readLine, trim_trim]
    exact h
  read_comment _ := readLine_comment _
  nothing_iff := readLine_nothing_iff

/-- The keys of an optional table that have no marker are left behind when its header
    becomes a comment: `mode` is printed as a key of `service`. -/
theorem key_left_behind :
    ∃ (R : LineReader (List Char)) (root text : String) (doc : Doc (List Char)),
      Parses R.read (lines text) doc ∧ wellMarked R root [] (lines text) = true ∧
      ¬ Parses R.read (lines (replaceOptionalComment text))
        (doc.erase (optionalPaths root text)) := by
  let text := "[service]\nname = \"x\"\n#:Opt:# network\n[network]\nmode = \"host\"\n"
  let items : List (Item (List Char)) := [.header ["service"],
    .keyVal ["name"] "\"x\"".toList, .nothing, .header ["network"],
    .keyVal ["mode"] "\"host\"".toList]
  have hread : (lines text).map readLine = items.map some := by decide
  have hprinted : (lines (replaceOptionalComment text)).map readLine =
      ([.header ["service"], .keyVal ["name"] "\"x\"".toList, .nothing, .nothing,
        .keyVal ["mode"] "\"host\"".toList] : List (Item (List Char))).map some := by decide
  refine ⟨plainReader, "Root", text, _, ⟨items, hread, valid_of_isPlain (by decide), rfl⟩,
    by decide, fun h => ?_⟩
  have hmoved : (["service", "mode"], "\"host\"".toList) ∈
      ((document (scan [] items)).erase (optionalPaths "Root" text)).leaves := by
    rw [← ((parses_iff hprinted).mp h).2]
    exact ⟨["service"], ["mode"], by simp [scan], rfl⟩
  -- The template has no such value: its two values are at other paths.
  rcases hmoved.1 with ⟨sec, key, hmem, hpath⟩
  simp only [items, scan, List.mem_cons, List.not_mem_nil, or_false, false_or, reduceCtorEq,
    Stmt.leaf.injEq] at hmem
  rcases hmem with ⟨rfl, rfl, -⟩ | ⟨rfl, rfl, -⟩
  · exact absurd hpath (by decide)
  · exact absurd hpath (by decide)

/-- An optional table whose key has a marker of its own is left out as a whole. -/
theorem replaceOptionalComment_iff_network :
    ∃ (R : LineReader (List Char)) (root text : String) (doc : Doc (List Char)),
      Parses R.read (lines text) doc ∧ wellMarked R root [] (lines text) = true ∧
      Parses R.read (lines (replaceOptionalComment text))
        (doc.erase (optionalPaths root text)) := by
  let text := "name = 1\n#:Opt:# network\n[network]\n#:Opt:# network.mode\nmode = 2\n"
  let items : List (Item (List Char)) := [.keyVal ["name"] ['1'], .nothing,
    .header ["network"], .nothing, .keyVal ["mode"] ['2']]
  have hread : (lines text).map readLine = items.map some := by decide
  have hstatements : statements plainReader text =
      [(false, .leaf [] ["name"] ['1']), (true, .table ["network"]),
        (true, .leaf ["network"] ["mode"] ['2'])] := by decide
  have hnetwork : ["network"] ∈ optionalPaths "Root" text := by
    change fieldTree "Root" ["network"] ∈ extractOptionalKeys "Root" text
    decide
  have hparses : Parses plainReader.read (lines text) (document (scan [] items)) :=
    ⟨items, hread, valid_of_isPlain (by decide), rfl⟩
  refine ⟨plainReader, "Root", text, _, hparses, by decide,
    (replaceOptionalComment_iff plainReader "Root" text hparses (by decide)).mpr ⟨?_, ?_⟩⟩
  · rw [hstatements]
    intro s hs
    simp only [List.mem_cons, List.not_mem_nil, or_false, Prod.mk.injEq, true_and,
      Bool.false_eq_true, false_and] at hs
    subst hs
    rintro ⟨m, hm, hprefix⟩
    change fieldTree "Root" m ∈ extractOptionalKeys "Root" text at hm
    rcases List.prefix_cons_iff.mp hprefix with rfl | ⟨t, rfl, ht⟩
    · exact absurd hm (by decide)
    · rw [List.prefix_nil.mp ht] at hm
      exact absurd hm (by decide)
  · rw [hstatements]
    intro s hs p hp hnil hunder
    simp only [List.mem_cons, List.not_mem_nil, or_false, Prod.mk.injEq, true_and,
      Bool.true_eq_false, false_and, false_or] at hs
    -- A path above one of the two begins with the table.
    refine absurd ⟨["network"], hnetwork, ?_⟩ hunder
    rcases hs with rfl | rfl
    · rcases List.prefix_cons_iff.mp hp with h | ⟨t, rfl, -⟩
      · exact absurd h hnil
      · exact List.prefix_append ["network"] t
    · rcases List.prefix_cons_iff.mp hp with h | ⟨t, rfl, -⟩
      · exact absurd h hnil
      · exact List.prefix_append ["network"] t

end Plain

end ProcMacros

end Ssam

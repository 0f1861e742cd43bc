import CodeSearch.Cli.Run
import CodeSearch.Proofs.Engine.History
import CodeSearch.Proofs.Sorting
import CodeSearch.Proofs.Text.Utf8
import Mathlib.Data.List.Nodup
import Mathlib.Data.String.Basic

/-!
# 見つけたファイルのパス

見つけたファイルは、索引づけするファイルを一つずつ、パスの順に並べたものである。パスは、探し始めた場所からの名前を
`/` でつないで UTF-8 として読み、逆斜線も `/` に直したものなので、読み戻せるのは、読んだ名前を逆斜線でも切った列
（`segments`）である。名前が正しい UTF-8 で逆斜線がなければ、これは名前の列そのもので、違うファイルのパスは違う。
逆斜線のある名前は、その場所で切ったディレクトリの中の名前と区別がつかず、正しい UTF-8 でない名前は、読めない並びの
ほかが同じ名前と区別がつかない。

木をたどる仕組みについて頼るのは、木のファイルに一度ずつ出会うこと（`Walker.Yields`）だけである。

* `decode_joined` — つないだバイトの列は、一つ一つの名前を読んでつないだものに読める
* `splitOn_shownPath` — パスを `/` で切ると、読んだ名前を逆斜線でも切った列になる
* `shownPath_eq_iff` — 二つのファイルのパスが同じなのは、その列が同じときに限る
* `paths_perm` — 見つけたファイルのパスは、索引づけするファイルのパスである
* `discover_distinct_iff` — 見つけたファイルのパスが互いに違うのは、どういうときか
* `discover_merges` — 逆斜線のある名前のファイルは、別のファイルと同じパスになり、索引から消える
-/

namespace CodeSearch

/-- ファイルの木として成り立つこと。同じ場所に二つのファイルはなく、名前に `/` は入らない。 -/
structure FileTree.Lawful (t : FileTree) : Prop where
  distinct : (t.files.map Prod.fst).Nodup
  names : ∀ f ∈ t.files, ∀ name ∈ f.1, FileName.slash ∉ name.bytes

/-- たどり始めた場所の中にある木のファイルに、一度ずつ出会うこと。 -/
structure Walker.Yields (walk : Walker) (t : FileTree) (root : Location) : Prop where
  distinct : (Discovery.visited walk t root).Nodup
  inside : ∀ place ∈ Discovery.visited walk t root, FileTree.isInside root place = true
  stored : ∀ place ∈ Discovery.visited walk t root, place ∈ t.files.map Prod.fst

/-- 無視する規則に従ってたどれば、木のファイルに一度ずつ出会う。 -/
theorem Walker.yields_builtin {t : FileTree} (ht : t.Lawful) (root : Location) :
    Walker.builtin.Yields t root := by
  have hvisited : Discovery.visited .builtin t root = (t.files.map Prod.fst).filter fun place =>
      FileTree.isInside root place && IgnoreWalk.isReached t root place := by
    show List.filterMap Entry.file? (List.map .file _) = _
    rw [List.filterMap_map]
    exact List.filterMap_some
  refine ⟨?_, fun place hplace => ?_, fun place hplace => ?_⟩
  · rw [hvisited]
    exact ht.distinct.filter _
  · rw [hvisited] at hplace
    exact ((Bool.and_eq_true _ _).mp (List.mem_filter.mp hplace).2).1
  · rw [hvisited] at hplace
    exact (List.mem_filter.mp hplace).1

namespace Discovery

open Text (Utf8.decode)

variable {t : FileTree} {walk : Walker} {root place other : Location}

/-! ## パスを読み戻すこと -/

/-- 探し始めた場所からの名前を読んで、逆斜線でも切った列。 -/
def segments (root place : Location) : List (List Char) :=
  (namesFrom root place).flatMap fun name => (Utf8.decode name.bytes).splitOn '\\'

/-- **つないだバイトの列は、一つ一つの名前を読んでつないだものに読める。** `/` は読みかけの文字を切る。 -/
theorem decode_joined : ∀ names : List FileName,
    Utf8.decode (joined names) = ['/'].intercalate (names.map fun name => Utf8.decode name.bytes)
  | [] => rfl
  | [name] => by simp [joined, List.intercalate]
  | name :: next :: names => by
    have ih := decode_joined (next :: names)
    have hbytes : joined (name :: next :: names)
        = name.bytes ++ FileName.slash :: joined (next :: names) := by
      simp [joined, List.intercalate]
    have hchars : ['/'].intercalate ((name :: next :: names).map fun n => Utf8.decode n.bytes)
        = Utf8.decode name.bytes
          ++ '/' :: ['/'].intercalate ((next :: names).map fun n => Utf8.decode n.bytes) := by
      simp [List.intercalate]
    rw [hbytes, hchars, ← ih]
    exact Text.Utf8.decodeFrom_append_ascii (by decide) _ name.bytes none

/-- `/` のない名前は、読んでも `/` がない。 -/
theorem slash_notMem_decode {name : FileName} (h : FileName.slash ∉ name.bytes) :
    '/' ∉ Utf8.decode name.bytes :=
  fun hmem => h (Text.Utf8.mem_of_mem_decodeFrom (by decide) (by decide) hmem)

/-- パスの中で区切りとして読まれる文字か。 -/
def isSeparator (c : Char) : Bool := c == '/' || c == '\\'

/-- 逆斜線を `/` に直してから切ることは、どちらの区切りでも切ることである。 -/
theorem splitOn_map_slash : ∀ cs : List Char,
    (cs.map fun c => if c = '\\' then '/' else c).splitOn '/' = cs.splitOnP isSeparator
  | [] => rfl
  | c :: cs => by
    have ih := splitOn_map_slash cs
    rw [List.splitOn_eq_splitOnP] at ih ⊢
    rw [List.map_cons, List.splitOnP_cons_eq_if_modifyHead, List.splitOnP_cons_eq_if_modifyHead, ih]
    by_cases hback : c = '\\'
    · simp [hback, isSeparator]
    · simp [hback, isSeparator]

/-- `/` のない名前は、逆斜線だけで切れる。 -/
theorem splitOnP_of_name : ∀ {name : List Char}, '/' ∉ name →
    name.splitOnP isSeparator = name.splitOn '\\'
  | [], _ => rfl
  | c :: name, h => by
    obtain ⟨hc, hname⟩ := List.ne_and_not_mem_of_not_mem_cons h
    have ih := splitOnP_of_name hname
    rw [List.splitOn_eq_splitOnP] at ih ⊢
    rw [List.splitOnP_cons_eq_if_modifyHead, List.splitOnP_cons_eq_if_modifyHead, ih]
    simp [isSeparator, Ne.symm hc]

/-- つないだ名前を切ると、一つ一つの名前を切ったものになる。 -/
theorem splitOnP_intercalate : ∀ {names : List (List Char)}, names ≠ [] →
    (∀ name ∈ names, '/' ∉ name) →
    (['/'].intercalate names).splitOnP isSeparator = names.flatMap (·.splitOn '\\')
  | [name], _, h => by
    simpa [List.intercalate] using splitOnP_of_name (h name List.mem_cons_self)
  | name :: next :: names, _, h => by
    obtain ⟨hname, hrest⟩ := List.forall_mem_cons.mp h
    have ih := splitOnP_intercalate (List.cons_ne_nil next names) hrest
    have hjoin : ['/'].intercalate (name :: next :: names)
        = name ++ '/' :: ['/'].intercalate (next :: names) := by
      simp [List.intercalate]
    rw [hjoin, List.splitOnP_append_cons _ _ (by decide), ih, splitOnP_of_name hname]
    rfl

/-- 探し始めた場所の中にある場所は、そこから名前を一つ以上たどったものである。 -/
theorem eq_append_of_isInside (h : FileTree.isInside root place = true) :
    place = root ++ namesFrom root place ∧ namesFrom root place ≠ [] := by
  unfold FileTree.isInside at h
  rw [Bool.and_eq_true, bne_iff_ne] at h
  unfold namesFrom
  rw [if_pos h.1]
  obtain ⟨⟨rest, rfl⟩, hne⟩ := h.imp_left List.isPrefixOf_iff_prefix.mp
  rw [List.drop_left]
  refine ⟨rfl, ?_⟩
  rintro rfl
  exact hne (List.append_nil root).symm

theorem mem_of_mem_namesFrom {name : FileName} (h : name ∈ namesFrom root place) :
    name ∈ place := by
  unfold namesFrom at h
  split at h
  · exact List.mem_of_mem_drop h
  · exact h

/-- **パスを `/` で切ると、読んだ名前を逆斜線でも切った列になる。** -/
theorem splitOn_shownPath (hinside : FileTree.isInside root place = true)
    (hnames : ∀ name ∈ place, FileName.slash ∉ name.bytes) :
    (shownPath root place).toList.splitOn '/' = segments root place := by
  have hne : (namesFrom root place).map (fun name => Utf8.decode name.bytes) ≠ [] := by
    rw [ne_eq, List.map_eq_nil_iff]
    exact (eq_append_of_isInside hinside).2
  unfold shownPath segments
  rw [String.toList_ofList, splitOn_map_slash, decode_joined, splitOnP_intercalate hne]
  · rw [List.flatMap_map]
  · intro name hname
    obtain ⟨name, hmem, rfl⟩ := List.mem_map.mp hname
    exact slash_notMem_decode (hnames name (mem_of_mem_namesFrom hmem))

/-- **二つのパスが同じなのは、読んだ名前を逆斜線でも切った列が同じときに限る。** -/
theorem shownPath_eq_iff (hinside : FileTree.isInside root place = true)
    (hother : FileTree.isInside root other = true)
    (hnames : ∀ name ∈ place, FileName.slash ∉ name.bytes)
    (hnames' : ∀ name ∈ other, FileName.slash ∉ name.bytes) :
    shownPath root place = shownPath root other ↔ segments root place = segments root other := by
  rw [← splitOn_shownPath hinside hnames, ← splitOn_shownPath hother hnames']
  constructor
  · intro h
    rw [h]
  · intro h
    have hjoin := congrArg (List.intercalate ['/']) h
    rw [List.intercalate_splitOn, List.intercalate_splitOn] at hjoin
    exact String.toList_injective hjoin

/-- 逆斜線のない文字列を UTF-8 で書いた名前であること。 -/
def IsPlain (name : FileName) : Prop := ∃ s : String, name = .ofString s ∧ '\\' ∉ s.toList

/-- 正しい UTF-8 の名前は、読んで書けば元に戻る。 -/
theorem IsPlain.encode_decode {name : FileName} (h : IsPlain name) :
    Text.Utf8.encode (Utf8.decode name.bytes) = name.bytes := by
  obtain ⟨s, rfl, -⟩ := h
  exact congrArg Text.Utf8.encode (Text.Utf8.decode_encode s.toList)

theorem IsPlain.notMem_decode {name : FileName} (h : IsPlain name) :
    '\\' ∉ Utf8.decode name.bytes := by
  obtain ⟨s, rfl, hs⟩ := h
  show '\\' ∉ Utf8.decode (Text.Utf8.encode s.toList)
  rwa [Text.Utf8.decode_encode]

/-- 逆斜線のない正しい UTF-8 の名前ばかりなら、列は名前を読んだ列そのものである。 -/
theorem segments_of_plain (h : ∀ name ∈ namesFrom root place, IsPlain name) :
    segments root place = (namesFrom root place).map fun name => Utf8.decode name.bytes := by
  unfold segments
  rw [List.map_eq_flatMap]
  exact List.flatMap_congr fun name hname => List.splitOn_eq_singleton (h name hname).notMem_decode

/-- 逆斜線のない正しい UTF-8 の名前の列は、読んだ列が同じなら同じである。 -/
theorem names_eq_of_decode_eq : ∀ {names others : List FileName}, (∀ name ∈ names, IsPlain name) →
    (∀ name ∈ others, IsPlain name) →
    names.map (fun name => Utf8.decode name.bytes)
      = others.map (fun name => Utf8.decode name.bytes) → names = others
  | [], [], _, _, _ => rfl
  | name :: names, next :: others, h, h', heq => by
    obtain ⟨hname, hnames⟩ := List.forall_mem_cons.mp h
    obtain ⟨hnext, hothers⟩ := List.forall_mem_cons.mp h'
    obtain ⟨hhead, htail⟩ := List.cons.inj heq
    have hbytes := congrArg Text.Utf8.encode hhead
    rw [hname.encode_decode, hnext.encode_decode] at hbytes
    rw [names_eq_of_decode_eq hnames hothers htail, FileName.ext hbytes]

/-! ## 集めたファイル -/

/-- 索引づけするファイルの場所。 -/
def indexed (walk : Walker) (t : FileTree) (root : Location) : List Location :=
  (visited walk t root).filter fun place => (found? t root place).isSome

/-- パスの指す場所がディレクトリなら、その下のファイルが見つかる。 -/
theorem discover_eq {path : String} (hroot : Path.resolve path = some root)
    (hdir : t.isDirectory root = true) : discover walk t path = .ok (gather walk t root) := by
  unfold discover
  rw [hroot]
  exact if_pos hdir

/-- 見つけたファイルは、探し始めた場所からのパスをもつ。 -/
theorem path_of_found? {found : FoundFile} (h : found? t root place = some found) :
    found.path = shownPath root place := by
  unfold found? at h
  dsimp only at h
  split at h
  · cases h
  · obtain ⟨text, -, rfl⟩ := Option.map_eq_some_iff.mp h
    rfl

theorem nodup_indexed (hwalk : walk.Yields t root) : (indexed walk t root).Nodup :=
  hwalk.distinct.filter _

theorem visited_of_mem_indexed (h : place ∈ indexed walk t root) : place ∈ visited walk t root :=
  (List.mem_filter.mp h).1

/-- 集める順のまま、見つけたファイルのパスは、索引づけするファイルのパスである。 -/
theorem paths_filterMap (places : List Location) :
    (places.filterMap (found? t root)).map (·.path)
      = (places.filter fun place => (found? t root place).isSome).map (shownPath root) := by
  induction places with
  | nil => rfl
  | cons place places ih =>
    cases hf : found? t root place with
    | none =>
      rw [List.filterMap_cons_none hf, List.filter_cons_of_neg (by simp [hf]), ih]
    | some found =>
      rw [List.filterMap_cons_some hf, List.filter_cons_of_pos (by simp [hf]), List.map_cons,
        List.map_cons, ih, path_of_found? hf]

/-- **見つけたファイルのパスは、索引づけするファイルのパスである。** -/
theorem paths_perm (walk : Walker) (t : FileTree) (root : Location) :
    ((gather walk t root).map (·.path)).Perm ((indexed walk t root).map (shownPath root)) := by
  have hperm := (stableSort_perm (fun a b : FoundFile => decide (a.path < b.path))
    ((visited walk t root).filterMap (found? t root))).map (·.path)
  rwa [paths_filterMap] at hperm

/-- 見つけたファイルは、パスの順に並ぶ。 -/
theorem sorted_gather (walk : Walker) (t : FileTree) (root : Location) :
    (gather walk t root).Pairwise fun a b => a.path ≤ b.path := by
  have horders : Orders (fun a b : FoundFile => decide (a.path < b.path))
      ((visited walk t root).filterMap (found? t root)) :=
    { asymm := fun a _ b _ hab => by
        rw [decide_eq_true_eq] at hab
        rw [decide_eq_false_iff_not]
        exact lt_asymm hab
      trans := fun a _ b _ c _ hab hbc => by
        rw [decide_eq_false_iff_not, not_lt] at hab hbc ⊢
        exact hbc.trans hab }
  refine (pairwise_stableSort horders).imp fun {a b} hab => ?_
  rwa [decide_eq_false_iff_not, not_lt] at hab

/-- たどって出会うファイルの名前に、`/` は入らない。 -/
theorem names_of_visited (ht : t.Lawful) (hwalk : walk.Yields t root)
    (h : place ∈ visited walk t root) : ∀ name ∈ place, FileName.slash ∉ name.bytes := by
  obtain ⟨f, hf, rfl⟩ := List.mem_map.mp (hwalk.stored place h)
  exact ht.names f hf

/-- 索引づけする二つのファイルのパスが同じなのは、読んだ名前を逆斜線でも切った列が同じときに限る。 -/
theorem shownPath_indexed_iff (ht : t.Lawful) (hwalk : walk.Yields t root)
    (hplace : place ∈ indexed walk t root) (hother : other ∈ indexed walk t root) :
    shownPath root place = shownPath root other ↔ segments root place = segments root other := by
  have hvisited := visited_of_mem_indexed hplace
  have hvisited' := visited_of_mem_indexed hother
  exact shownPath_eq_iff (hwalk.inside _ hvisited) (hwalk.inside _ hvisited')
    (names_of_visited ht hwalk hvisited) (names_of_visited ht hwalk hvisited')

/-- 見つけたファイルのパスが互いに違うのは、読んだ名前を逆斜線でも切った列が互いに違うときに限る。 -/
theorem nodup_paths_iff (ht : t.Lawful) (hwalk : walk.Yields t root) :
    ((gather walk t root).map (·.path)).Nodup
      ↔ ((indexed walk t root).map (segments root)).Nodup := by
  have hnodup := nodup_indexed hwalk
  rw [(paths_perm walk t root).nodup_iff, List.nodup_map_iff_inj_on hnodup,
    List.nodup_map_iff_inj_on hnodup]
  refine forall₄_congr fun place hplace other hother => ?_
  rw [shownPath_indexed_iff ht hwalk hplace hother]

/-- 名前がどれも正しい UTF-8 で逆斜線がなければ、列は互いに違う。 -/
theorem nodup_segments_of_plain (hwalk : walk.Yields t root)
    (hplain : ∀ place ∈ indexed walk t root, ∀ name ∈ namesFrom root place, IsPlain name) :
    ((indexed walk t root).map (segments root)).Nodup := by
  refine (nodup_indexed hwalk).map_on fun place hplace other hother h => ?_
  rw [segments_of_plain (hplain place hplace), segments_of_plain (hplain other hother)] at h
  have hnames := names_eq_of_decode_eq (hplain place hplace) (hplain other hother) h
  have hinside := hwalk.inside _ (visited_of_mem_indexed hplace)
  have hinside' := hwalk.inside _ (visited_of_mem_indexed hother)
  rw [(eq_append_of_isInside hinside).1, (eq_append_of_isInside hinside').1, hnames]

variable {σ τ : Type}

/--
**見つけたファイルのパスが互いに違うのは、どういうときか。** 木をたどる仕組みが木のファイルに一度ずつ出会うなら、
索引づけするファイルが一つずつ、パスの順に見つかる。二つのファイルのパスが同じなのは、読んだ名前を逆斜線でも切った列が
同じときに限る。そこで、パスが互いに違うのはその列が互いに違うときに限り、名前がどれも逆斜線のない正しい UTF-8 なら
いつもそうなる。索引づけの依頼のパスについても同じである。
-/
theorem discover_distinct_iff (ht : t.Lawful) (hwalk : walk.Yields t root) :
    (∀ path, Path.resolve path = some root → t.isDirectory root = true →
      discover walk t path = .ok (gather walk t root))
    ∧ (gather walk t root).Perm ((visited walk t root).filterMap (found? t root))
    ∧ ((gather walk t root).map (·.path)).Perm ((indexed walk t root).map (shownPath root))
    ∧ (indexed walk t root).Nodup
    ∧ (gather walk t root).Pairwise (fun a b => a.path ≤ b.path)
    ∧ (∀ place ∈ indexed walk t root, ∀ other ∈ indexed walk t root,
      shownPath root place = shownPath root other ↔ segments root place = segments root other)
    ∧ (((gather walk t root).map (·.path)).Nodup
      ↔ ((indexed walk t root).map (segments root)).Nodup)
    ∧ ((∀ place ∈ indexed walk t root, ∀ name ∈ namesFrom root place, IsPlain name) →
      ((gather walk t root).map (·.path)).Nodup)
    ∧ ∀ (world : Cli.Surroundings σ) (full : Bool) (stop : Nat → Bool) (schedule : List Nat)
        (session : Session τ),
      (Engine.Request.index full stop schedule ((gather walk t root).map (Cli.sourceFile world))
        session).Distinct ↔ ((indexed walk t root).map (segments root)).Nodup := by
  have hpaths := nodup_paths_iff ht hwalk
  refine ⟨fun path hroot hdir => discover_eq hroot hdir, stableSort_perm _ _,
    paths_perm walk t root, nodup_indexed hwalk, sorted_gather walk t root,
    fun _ hplace _ hother => shownPath_indexed_iff ht hwalk hplace hother, hpaths,
    fun hplain => hpaths.mpr (nodup_segments_of_plain hwalk hplain), ?_⟩
  intro world full stop schedule session
  unfold Engine.Request.Distinct Engine.Request.files
  rw [List.map_map]
  exact hpaths

/-- 逆斜線のある名前のファイルと、ディレクトリの中のファイル。切った列は違う。 -/
def apart : FileTree where
  files := [(["a", "b.rs"], "fn a() \x7b\x7d".toUTF8), (["b\\a.rs"], "struct B;".toUTF8)]

theorem lawful_apart : apart.Lawful := ⟨by decide +kernel, by decide +kernel⟩

theorem discover_distinct_iff_apart :
    apart.Lawful ∧ Walker.builtin.Yields apart []
      ∧ discover .builtin apart "" = .ok (gather .builtin apart [])
      ∧ ((gather .builtin apart []).map (·.path)).Nodup := by
  have hyields := Walker.yields_builtin lawful_apart []
  obtain ⟨hdiscover, _, _, _, _, _, hiff, _⟩ :=
    discover_distinct_iff (σ := Unit) (τ := Unit) lawful_apart hyields
  have hapart : ((indexed .builtin apart []).map (segments [])).Nodup := by decide +kernel
  exact ⟨lawful_apart, hyields, hdiscover "" (by decide +kernel) rfl, hiff.mpr hapart⟩

/-- 逆斜線のある名前のファイルと、そこで切ったディレクトリの中のファイル。 -/
def merging : FileTree where
  files := [(["a", "b.rs"], "fn a() \x7b\x7d".toUTF8), (["a\\b.rs"], "struct B;".toUTF8)]

/-- 正しい UTF-8 でない、違う名前のファイル。 -/
def unreadable : FileTree where
  files := [([⟨[97, 0xFF, 46, 114, 115]⟩], "fn a() \x7b\x7d".toUTF8),
    ([⟨[97, 0xFE, 46, 114, 115]⟩], "struct B;".toUTF8)]

/-- 見つけたファイルに、空の保存先から索引を付ける。 -/
def indexFound (found : List FoundFile) : Engine.IndexRun Bool :=
  Engine.index Engine.flaky (fun _ => false) [] false Engine.fresh
    (found.map fun f => { path := f.path, text := f.text, language := f.language }) { peer := true }

/--
**逆斜線のある名前のファイルは、別のファイルと同じパスになる。** 索引づけは成功するのに、一方のファイルの行しか
残らない。正しい UTF-8 でない名前のファイルも、同じパスになることがある。
-/
theorem discover_merges :
    merging.Lawful ∧ Walker.builtin.Yields merging []
    ∧ (∃ found, discover .builtin merging "" = .ok found
      ∧ found.map (fun f => (f.path, f.text))
        = [("a/b.rs", "fn a() \x7b\x7d"), ("a/b.rs", "struct B;")]
      ∧ (indexFound found).result.toOption.map (·.success) = some true
      ∧ (indexFound found).engine.store.rows.map (fun row => (row.path, row.text))
        = [("a/b.rs", "struct B;")])
    ∧ unreadable.Lawful ∧ Walker.builtin.Yields unreadable []
    ∧ (∃ found, discover .builtin unreadable "" = .ok found
      ∧ found.map (·.path) = ["a\uFFFD.rs", "a\uFFFD.rs"]) := by
  have hroot : Path.resolve "" = some [] := by decide +kernel
  have hmerging : merging.Lawful := ⟨by decide +kernel, by decide +kernel⟩
  have hunreadable : unreadable.Lawful := ⟨by decide +kernel, by decide +kernel⟩
  have hrun : ((indexFound (gather .builtin merging [])).result.toOption.map (·.success),
      (indexFound (gather .builtin merging [])).engine.store.rows.map fun row =>
        (row.path, row.text))
        = (some true, [("a/b.rs", "struct B;")]) := by decide +kernel
  obtain ⟨hsuccess, hrows⟩ := Prod.mk.inj hrun
  exact ⟨hmerging, Walker.yields_builtin hmerging [],
    ⟨gather .builtin merging [], discover_eq hroot rfl, by decide +kernel, hsuccess, hrows⟩,
    hunreadable, Walker.yields_builtin hunreadable [],
    ⟨gather .builtin unreadable [], discover_eq hroot rfl, by decide +kernel⟩⟩

end Discovery

end CodeSearch

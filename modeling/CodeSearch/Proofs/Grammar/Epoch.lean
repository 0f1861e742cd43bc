import CodeSearch.Proofs.Grammar.Registry
import CodeSearch.Total
import Mathlib.Data.List.Dedup
import Mathlib.Data.List.Induction

/-!
# 区間ごとに一度の読み込み

保管を使う出来事の列を、覚えた結果を捨てたところで切ると、区間の列になる。どの区間でも、求められた
言語は一度ずつ読み込む。何度求めても、どの拡張子から求めても、読めなかった言語でも、一度である。
保管の中身は、いまの区間に求められた言語と、前の区間までの回数だけで決まる（`after_eq`）。

* `kept` — いまの区間に求められた言語と、前の区間までの回数から決まる保管
* `apply_kept` — 出来事を一つ済ませても、その形は変わらない
* `after_eq` — どう使われてきた保管も、その形をしている
* `loads_once_per_stretch` — 求めた文法、扱えるかの答え、読み込んだ回数
-/

namespace CodeSearch

namespace Registry

/-! ## 出来事と区間 -/

/-- 保管を使う出来事。 -/
inductive Event where
  | get (extension : String)
  | getLanguage (l : Language)
  | supports (extension : String)
  | supportsLanguage (l : Language)
  | clear
  | reset

namespace Event

/-- 済ませた後の保管。 -/
def apply (r : Registry) : Event → Registry
  | get extension => r.request (.ofExtension extension)
  | getLanguage l => r.request l
  | supports _ | supportsLanguage _ => r
  | clear => r.clear
  | reset => r.reset

/-- 扱えるかを問うだけの出来事か。 -/
def isQuestion : Event → Bool
  | supports _ | supportsLanguage _ => true
  | _ => false

def isReset : Event → Bool
  | reset => true
  | _ => false

def isClear : Event → Bool
  | clear => true
  | _ => false

/-- 覚えた結果を捨てる出来事か。 -/
def drops (e : Event) : Bool := e.isClear || e.isReset

/-- 文法を求めた言語。 -/
def asked? : Event → Option Language
  | get extension => some (.ofExtension extension)
  | getLanguage l => some l
  | _ => none

end Event

/-- 何も読み込んでいない保管で、出来事を順に済ませた保管。 -/
def after (loader : Loader) (events : List Event) : Registry :=
  events.foldl Event.apply (.ofLoader loader)

/-- 文法を求めた言語の列。`unknown` は数えない。 -/
def requested (events : List Event) : List Language :=
  (events.filterMap Event.asked?).filter (· != .unknown)

/-- 最後に捨てた後の出来事。新しいものほど前にある。 -/
def sinceDropped (events : List Event) : List Event := events.reverse.takeWhile (!·.drops)

/-- 最後の `reset` より後の出来事を、`clear` のところで切った区間。新しいものほど前にある。 -/
def stretches (events : List Event) : List (List Event) :=
  (events.reverse.takeWhile (!·.isReset)).splitOnP Event.isClear

/-- 区間のうちに読み込む回数。求められた言語を、重なりを除いて数えたものである。 -/
def loadsIn (stretch : List Event) : Nat := (requested stretch).dedup.length

variable {loader : Loader} {wanted : List Language} {before : Nat}

/-! ## 区間の延び方 -/

theorem sinceDropped_concat (events : List Event) (e : Event) :
    sinceDropped (events ++ [e]) = if e.drops then [] else e :: sinceDropped events := by
  unfold sinceDropped
  rw [List.reverse_concat, List.takeWhile_cons]
  cases e.drops <;> rfl

theorem stretches_concat_reset (events : List Event) : stretches (events ++ [.reset]) = [[]] := by
  unfold stretches
  rw [List.reverse_concat]
  rfl

theorem stretches_concat_clear (events : List Event) :
    stretches (events ++ [.clear]) = [] :: stretches events := by
  unfold stretches
  rw [List.reverse_concat, List.takeWhile_cons_of_pos (by rfl),
    List.splitOnP_cons_eq_if_modifyHead, if_pos (by rfl)]

theorem stretches_concat_of_not_drops {e : Event} (he : e.drops = false) (events : List Event) :
    stretches (events ++ [e]) = (stretches events).modifyHead (List.cons e) := by
  obtain ⟨hclear, hreset⟩ := Bool.or_eq_false_iff.mp he
  unfold stretches
  rw [List.reverse_concat, List.takeWhile_cons_of_pos (by rw [hreset]; rfl),
    List.splitOnP_cons_eq_if_modifyHead, if_neg (by rw [hclear]; decide)]

/-- いちばん新しい区間は、最後に捨てた後の出来事である。 -/
theorem stretches_eq_cons (events : List Event) :
    stretches events = sinceDropped events :: (stretches events).tail := by
  induction events using List.reverseRecOn with
  | nil => rfl
  | append_singleton events e ih =>
    rw [sinceDropped_concat]
    cases he : e.drops with
    | false =>
      rw [stretches_concat_of_not_drops he, ih]
      rfl
    | true =>
      cases e with
      | clear => rw [stretches_concat_clear]; rfl
      | reset => rw [stretches_concat_reset]; rfl
      | _ => cases he

/-! ## 保管の形 -/

/-- いまの区間に `wanted` を求められ、前の区間までに `before` 回読み込んだ保管。 -/
def kept (loader : Loader) (wanted : List Language) (before : Nat) : Registry where
  loader := loader
  loaded := wanted.dedup.map fun l => (l, loader.load l)
  loads := wanted.dedup.length + before

/-- 覚えているのは、いまの区間に求められた言語の結果である。 -/
theorem lookup_kept (l : Language) : (kept loader wanted before).loaded.lookup l
    = if l ∈ wanted then some (loader.load l) else none := by
  split
  · next hl => exact List.lookup_graph _ (List.mem_dedup.mpr hl)
  · next hl =>
    rw [List.lookup_eq_none_iff]
    intro p hp
    obtain ⟨l', hl', rfl⟩ := List.mem_map.mp hp
    have hne : l ≠ l' := by
      rintro rfl
      exact hl (List.mem_dedup.mp hl')
    simpa using hne

theorem agrees_kept : Agrees loader (kept loader wanted before) where
  loader_eq := rfl
  loaded := by
    intro l g h
    rw [lookup_kept] at h
    split at h
    · exact (Option.some.inj h).symm
    · cases h

theorem request_unknown (r : Registry) : r.request .unknown = r := by
  unfold request get
  rw [if_pos rfl]

/-- 求めた言語は、求められた列の先頭に加わる。前に求められていれば読み込まない。 -/
theorem request_kept {l : Language} (hl : l ≠ .unknown) :
    (kept loader wanted before).request l = kept loader (l :: wanted) before := by
  unfold request get
  rw [if_neg hl, lookup_kept]
  by_cases hmem : l ∈ wanted
  · rw [if_pos hmem]
    unfold kept
    rw [List.dedup_cons_of_mem hmem]
  · rw [if_neg hmem]
    unfold kept
    rw [List.dedup_cons_of_notMem hmem]
    simp only [List.map_cons, List.length_cons, Nat.add_right_comm]

theorem request_kept_requested {e : Event} {l : Language} (he : e.asked? = some l)
    (stretch : List Event) : (kept loader (requested stretch) before).request l
      = kept loader (requested (e :: stretch)) before := by
  have hcons : requested (e :: stretch)
      = if l = .unknown then requested stretch else l :: requested stretch := by
    unfold requested
    rw [List.filterMap_cons_some he, List.filter_cons]
    by_cases hl : l = .unknown <;> simp [hl]
  rw [hcons]
  by_cases hl : l = .unknown
  · rw [if_pos hl, hl, request_unknown]
  · rw [if_neg hl, request_kept hl]

/-- **捨てない出来事は、いまの区間に加わる。** -/
theorem apply_kept {e : Event} (he : e.drops = false) (stretch : List Event) :
    e.apply (kept loader (requested stretch) before)
      = kept loader (requested (e :: stretch)) before := by
  cases e with
  | get extension => exact request_kept_requested rfl stretch
  | getLanguage l => exact request_kept_requested rfl stretch
  | supports extension => rfl
  | supportsLanguage l => rfl
  | clear => cases he
  | reset => cases he

theorem clear_kept : (kept loader wanted before).clear
    = kept loader [] (wanted.dedup.length + before) := by
  unfold clear kept
  simp

theorem reset_kept : (kept loader wanted before).reset = kept loader [] 0 := rfl

/-- **どう使われてきた保管も、いまの区間に求められた言語と、前の区間までの回数だけで決まる。** -/
theorem after_eq (loader : Loader) (events : List Event) :
    after loader events = kept loader (requested (sinceDropped events))
      (sumOf ((stretches events).tail.map loadsIn)) := by
  induction events using List.reverseRecOn with
  | nil => rfl
  | append_singleton events e ih =>
    have hstep : after loader (events ++ [e]) = e.apply (after loader events) := by
      unfold after
      rw [List.foldl_concat]
    rw [hstep, ih, sinceDropped_concat]
    cases he : e.drops with
    | false => rw [apply_kept he, stretches_concat_of_not_drops he, List.tail_modifyHead]; rfl
    | true =>
      cases e with
      | clear =>
        -- これまでの区間は、いちばん新しいものも含めて、前の区間になる
        rw [stretches_concat_clear, List.tail_cons, stretches_eq_cons events]
        exact clear_kept
      | reset =>
        rw [stretches_concat_reset]
        exact reset_kept
      | _ => cases he

/-! ## 答え -/

theorem mem_requested {l : Language} {events : List Event} :
    l ∈ requested events ↔ l ≠ .unknown ∧ ∃ e ∈ events, e.asked? = some l := by
  unfold requested
  rw [List.mem_filter, List.mem_filterMap, bne_iff_ne, and_comm]

/-- 返すことになる文法は、読み込めたものに、その言語の名を付けたものである。 -/
theorem served_eq_some_iff {l : Language} {g : Grammar} : served loader l = some g
    ↔ l ≠ .unknown ∧ g.language = l ∧ loader l = some g.toCompiledGrammar := by
  unfold served
  by_cases hl : l = .unknown
  · simp [hl]
  · rw [if_neg hl, Loader.load, Option.map_eq_some_iff]
    constructor
    · rintro ⟨compiled, hload, rfl⟩
      exact ⟨hl, rfl, hload⟩
    · rintro ⟨-, rfl, hload⟩
      exact ⟨g.toCompiledGrammar, hload, rfl⟩

theorem isSome_served_iff {l : Language} :
    (served loader l).isSome = true ↔ l ≠ .unknown ∧ (loader l).isSome = true := by
  unfold served
  by_cases hl : l = .unknown <;> simp [hl, Loader.load]

/-- 扱えないと答えるのは、`unknown` と、いまの区間に求められて読めなかった言語についてである。 -/
theorem supports_kept (l : Language) : (kept loader wanted before).supports l = false
    ↔ l = .unknown ∨ loader l = none ∧ l ∈ wanted := by
  unfold supports
  rw [lookup_kept]
  by_cases hl : l = .unknown
  · simp [hl]
  · by_cases hmem : l ∈ wanted <;> simp [hl, hmem, Loader.load]

/-- 扱えるかを問うても、保管は変わらない。 -/
theorem after_filter_isQuestion (loader : Loader) (events : List Event) :
    after loader (events.filter (!·.isQuestion)) = after loader events := by
  unfold after
  rw [List.foldl_filter]
  congr 1
  funext r e
  cases e <;> rfl

/--
**保管は区間ごとに一度だけ読み込み、読み込みのとおりに答える。**

どの読み込みの保管をどう使った後でも、

* 文法が返るのは、`unknown` でなく読み込める言語についてである。返るのは読み込んだその言語の文法である。
* 扱えないと答えるのは、`unknown` と、最後に捨ててから求められて読み込めなかった言語についてである。
* 読み込んだ回数は、最後の `reset` より後の区間ごとに、求められた言語を重なりを除いて数えた和である。
* 扱えるかを問うても読み込まない。問いを除いて使っても、同じ保管になる。
-/
theorem loads_once_per_stretch (loader : Loader) (events : List Event) :
    let r := after loader events
    (∀ l, ((r.get l).1.isSome = true ↔ l ≠ .unknown ∧ (loader l).isSome = true)
      ∧ ∀ g, (r.get l).1 = some g → g.language = l ∧ loader l = some g.toCompiledGrammar)
    ∧ (∀ l, r.supports l = false ↔
        l = .unknown ∨ loader l = none ∧ ∃ e ∈ sinceDropped events, e.asked? = some l)
    ∧ r.loads = sumOf ((stretches events).map loadsIn)
    ∧ after loader (events.filter (!·.isQuestion)) = r := by
  intro r
  have hkept : r = kept loader (requested (sinceDropped events))
      (sumOf ((stretches events).tail.map loadsIn)) := after_eq loader events
  have hget (l : Language) : (r.get l).1 = served loader l := by
    rw [hkept]
    exact agrees_kept.get_fst l
  refine ⟨fun l => ⟨?_, ?_⟩, fun l => ?_, ?_, after_filter_isQuestion loader events⟩
  · rw [hget]
    exact isSome_served_iff
  · intro g hg
    rw [hget] at hg
    exact (served_eq_some_iff.mp hg).2
  · rw [hkept, supports_kept, mem_requested]
    -- `unknown` を求めても覚えないが、扱えないことに変わりはない
    by_cases hl : l = .unknown <;> simp [hl]
  · rw [hkept, stretches_eq_cons events]
    rfl

/-- 同じ言語の拡張子は読み込みを分け合い、読めない言語も数え、捨てた後はまた読み込む。 -/
example : (after .builtin
    [.get "ts", .get "mts", .getLanguage .php, .get "php", .clear, .supports "go", .get "ts"]).loads
    = 3 := by decide +kernel

end Registry

end CodeSearch

import CodeSearch.Proofs.Embedding.Conservation

/-!
# 進み具合の報告と、途中でやめること

束が一つ済むたびに、済んだ断片の数を報告する。やめる合図は束の境でだけ見るので、合図のある境に着けば、
もう呼び出しも休みもせずに終わる。

やめたときの成果は、済んだ断片だけを渡してやめずに埋め込んだものと同じである。束の大きさは残りの数にも
よるが、済んだ束はどれも残りに収まっていたので、後ろの断片を初めから渡さなくても同じだけ取る。

* `Stage.Passes.run_eq` — 境から先の埋め込みは、そこまでの報告に続きを足したものである
* `Stage.Passes.within` — 済んだ束の断片だけを渡しても、同じ束を同じように経る
* `generate_eq_of_ok`、`generate_eq_of_stop` — 成果が返った埋め込みと、合図のある境に着いた埋め込み
* `progress_exact_stop_clean` — 以上をまとめたもの
-/

namespace CodeSearch

/-- 処理した断片の数。 -/
def Generation.processed (g : Generation) : Nat := g.embedded.length + g.failed.length

namespace Embedding

variable {σ : Type} {p : Provider σ} {o : EmbeddingSettings} {stop : Nat → Bool}

/-! ## 束の境に済んだ断片の数 -/

/-- `done` 個が済んでいるところから束を順に済ませるとき、束ごとの、済んだ断片の数。 -/
def marks (done : Nat) : List (List Chunk) → List Nat
  | [] => []
  | b :: rest => (done + b.length) :: marks (done + b.length) rest

theorem length_marks : ∀ (done : Nat) (batches : List (List Chunk)),
    (marks done batches).length = batches.length
  | _, [] => rfl
  | done, b :: rest => congrArg (· + 1) (length_marks (done + b.length) rest)

theorem marks_append : ∀ (done : Nat) (front back : List (List Chunk)),
    marks done (front ++ back) = marks done front ++ marks (done + front.flatten.length) back
  | _, [], _ => rfl
  | done, b :: front, back => by
    rw [List.cons_append, marks, marks, marks_append, List.flatten_cons, List.length_append,
      List.cons_append, Nat.add_assoc]

/-- 束がどれも空でなければ、済んだ断片の数は増え続ける。 -/
theorem increasing_marks : ∀ (done : Nat) {batches : List (List Chunk)},
    (∀ b ∈ batches, b ≠ []) → (marks done batches).Pairwise (· < ·) ∧ ∀ m ∈ marks done batches, done < m
  | _, [], _ => ⟨.nil, nofun⟩
  | done, b :: rest, h => by
    obtain ⟨hb, hrest⟩ := List.forall_mem_cons.mp h
    have hpos := List.length_pos_iff.mpr hb
    obtain ⟨hpair, hlater⟩ := increasing_marks (done + b.length) hrest
    refine ⟨.cons hlater hpair, List.forall_mem_cons.mpr ⟨by omega, fun m hm => ?_⟩⟩
    have := hlater m hm
    omega

/-- 最後の境では、束の断片がすべて済んでいる。 -/
theorem getLast?_marks {batches : List (List Chunk)} (h : batches ≠ []) (done : Nat) :
    (marks done batches).getLast? = some (done + batches.flatten.length) := by
  obtain ⟨front, b, rfl⟩ : ∃ front b, batches = front ++ [b] :=
    ⟨_, _, (List.dropLast_append_getLast h).symm⟩
  rw [marks_append, marks, marks, List.getLast?_append_of_ne_nil _ (List.cons_ne_nil _ _)]
  simp [Nat.add_assoc]

namespace Stage

variable {t u v : Stage σ} {batches : List (List Chunk)} {total : Nat} {reports : List Progress}

/-! ## 報告 -/

/-- **境から先の埋め込みは、そこまでの報告に続きを足したものである。** -/
theorem Passes.run_eq (h : Passes p o stop t batches u) (total : Nat) (reports : List Progress) :
    t.run p o stop total reports
      = u.run p o stop total (reports ++ (marks t.done batches).map (report · total)) := by
  induction h generalizing reports with
  | refl t => rw [marks, List.map_nil, List.append_nil]
  | @step t u v batches hstep _ ih =>
    cases hstep with
    | embed hne hgo hbatch =>
      rw [run_of_ok hne hgo hbatch, ih, marks, t.length_batch, List.map_cons, List.append_assoc]
      rfl

/-- 先に進んでも、それまでの報告は変わらない。 -/
theorem prefix_reports (p : Provider σ) (o : EmbeddingSettings) (stop : Nat → Bool) (t : Stage σ)
    (total : Nat) (reports : List Progress) :
    reports <+: (t.run p o stop total reports).reports := by
  obtain ⟨batches, u, hpass, hend⟩ := run_cases p o stop total reports t
  have hlast : ∀ reports, u.Ends p o stop (u.run p o stop total reports) →
      (u.run p o stop total reports).reports = reports := by
    intro reports hend
    cases hend with
    | finished hnil => rw [run_of_nil hnil]
    | stopped hne hstop => rw [run_of_stop hne hstop]
    | failed e hne hgo hbatch => rw [run_of_error hne hgo (Prod.ext hbatch rfl)]
  rw [hpass.run_eq] at hend ⊢
  rw [hlast _ hend]
  exact List.prefix_append _ _

/-- 境では、済んだ断片のそれぞれが、埋め込めた列か埋め込めなかった列のどちらかにある。 -/
theorem Passes.processed_eq (h : Passes p o stop t batches u) {done : List Chunk}
    (hacc : t.generation.Accounts (fun _ _ => True) p.normalizes o.segmentIdentifiers done) :
    u.generation.processed = done.length + batches.flatten.length := by
  have hlen := (h.accounts p.answers_anything hacc).1.interleaved.length_eq
  rw [List.length_map, List.length_map, List.length_map, List.length_append] at hlen
  exact hlen.symm

/-! ## 済んだ束の断片だけを渡す -/

/-- 残りの断片を `left` に替えた状態。 -/
def withLeft (t : Stage σ) (left : List Chunk) : Stage σ := { t with remaining := left }

/-- 次の束は、その後ろに残っていた断片が減っても変わらない。 -/
theorem count_withLeft {rest : List Chunk} (h : rest.length ≤ (t.remaining.drop t.count).length) :
    (t.withLeft (t.batch ++ rest)).count = t.count := by
  have hcount : t.count = min t.size.value t.remaining.length := rfl
  rw [List.length_drop] at h
  show min t.size.value (t.batch ++ rest).length = t.count
  rw [List.length_append, t.length_batch]
  omega

/-- **済んだ束の断片だけを渡しても、同じ束を同じように経る。** -/
theorem Passes.within (h : Passes p o stop t batches u) :
    Passes p o (fun _ => false) (t.withLeft batches.flatten) batches (u.withLeft []) := by
  induction h with
  | refl t => exact .refl _
  | @step t u v batches hstep hrest ih =>
    cases hstep with
    | @embed g size s hne _ hbatch =>
      have hshort : batches.flatten.length ≤ (t.remaining.drop t.count).length := by
        have hleft : t.remaining.drop t.count = batches.flatten ++ v.remaining := hrest.remaining_eq
        rw [hleft, List.length_append]
        omega
      have hcount := count_withLeft hshort
      have htake : (t.withLeft (t.batch ++ batches.flatten)).batch = t.batch := by
        rw [batch, hcount]
        exact List.take_left' t.length_batch
      have hnext : (t.withLeft (t.batch ++ batches.flatten)).next g size s
          = (t.next g size s).withLeft batches.flatten := by
        unfold next
        rw [hcount]
        exact congrArg (withLeft (t.next g size s)) (List.drop_left' t.length_batch)
      have hfirst : t.batch ++ batches.flatten ≠ [] := by
        intro hnil
        have hpos := count_pos hne
        rw [← t.length_batch, (List.append_eq_nil_iff.mp hnil).1] at hpos
        cases hpos
      have hsame : (t.withLeft (t.batch ++ batches.flatten)).embed p o = (.ok g, size, s) := by
        rw [← hbatch, embed, htake]
        rfl
      have hgo : Step p o (fun _ => false) (t.withLeft (t.batch ++ batches.flatten))
          ((t.next g size s).withLeft batches.flatten) := hnext ▸ .embed hfirst rfl hsame
      have hall := Passes.step hgo ih
      rwa [htake] at hall

end Stage

/-! ## 成果が返る埋め込み -/

section

variable {size : BatchSize} {chunks : List Chunk} {s : Session σ} {g : Generation}
  {batches : List (List Chunk)} {u : Stage σ}

theorem Stage.Passes.generate_eq (h : Stage.Passes p o stop (.start p size chunks s) batches u) :
    generate p o stop size chunks s
      = u.run p o stop chunks.length ((marks 0 batches).map (report · chunks.length)) :=
  h.run_eq chunks.length []

/-- 始めの境から経てきた境では、束の断片がちょうど処理されている。 -/
theorem Stage.Passes.processed_start (h : Stage.Passes p o stop (.start p size chunks s) batches u) :
    u.generation.processed = batches.flatten.length := by
  have hstart := Generation.accounts_start (fun _ _ => True) p.normalizes o.segmentIdentifiers
    p.dimensions
  rw [h.processed_eq hstart, List.length_nil, Nat.zero_add]

/-- **成果が返れば、その成果は着いた境のものであり、そこまでに報告と呼び出しが済んでいる。** -/
theorem generate_eq_of_ok (h : (generate p o stop size chunks s).result = .ok g) :
    ∃ batches u, Stage.Passes p o stop (.start p size chunks s) batches u
      ∧ { g with cancelled := false } = u.generation
      ∧ (g.cancelled = true ↔ u.remaining ≠ [])
      ∧ generate p o stop size chunks s
        = { result := .ok g, reports := (marks 0 batches).map (report · chunks.length),
            size := u.size, session := u.session } := by
  obtain ⟨batches, u, hpass, hend⟩ := generate_cases p o stop size chunks s
  obtain ⟨-, hgo⟩ := hpass.accounts p.answers_anything
    (Generation.accounts_start _ p.normalizes o.segmentIdentifiers p.dimensions)
  have hgo : u.generation.cancelled = false := hgo
  refine ⟨batches, u, hpass, ?_⟩
  rw [hpass.generate_eq] at h hend ⊢
  cases hend with
  | finished hnil =>
    rw [Stage.run_of_nil hnil] at h ⊢
    cases h
    refine ⟨?_, by simp [hgo, hnil], rfl⟩
    rw [← hgo]
  | stopped hne hstop =>
    rw [Stage.run_of_stop hne hstop] at h ⊢
    cases h
    refine ⟨?_, by simp [hne], rfl⟩
    rw [← hgo]
  | failed e _ _ _ hres =>
    rw [h] at hres
    cases hres

/-- **合図のある境に着けば、そこで終わる。** 断片が残っていなければ、やめたことにはならない。 -/
theorem generate_eq_of_stop (h : Stage.Passes p o stop (.start p size chunks s) batches u)
    (hstop : stop u.done = true) :
    generate p o stop size chunks s
      = { result := .ok { u.generation with cancelled := !u.remaining.isEmpty },
          reports := (marks 0 batches).map (report · chunks.length),
          size := u.size, session := u.session } := by
  obtain ⟨-, hgo⟩ := h.accounts p.answers_anything
    (Generation.accounts_start _ p.normalizes o.segmentIdentifiers p.dimensions)
  have hgo : u.generation.cancelled = false := hgo
  rw [h.generate_eq]
  by_cases hnil : u.remaining = []
  · rw [Stage.run_of_nil hnil, hnil, List.isEmpty_nil, Bool.not_true, ← hgo]
  · rw [Stage.run_of_stop hnil hstop, List.isEmpty_eq_false_iff.mpr hnil, Bool.not_false]

/-- 済んだ束の断片だけを渡せば、同じ境でやり終える。 -/
theorem generate_flatten (h : Stage.Passes p o stop (.start p size chunks s) batches u) :
    generate p o (fun _ => false) size batches.flatten s
      = { result := .ok u.generation,
          reports := (marks 0 batches).map (report · batches.flatten.length),
          size := u.size, session := u.session } := by
  have hwithin : Stage.Passes p o (fun _ => false) (.start p size batches.flatten s) batches
      (u.withLeft []) := h.within
  rw [hwithin.generate_eq, Stage.run_of_nil rfl]
  rfl

end

/-! ## 報告とやめること -/

/-- 始めの状態 `t` からの報告が、束ごとに済んだ断片の数を述べていること。 -/
structure Reported (p : Provider σ) (o : EmbeddingSettings) (stop : Nat → Bool) (t : Stage σ)
    (total : Nat) (reports : List Progress) (g : Generation) : Prop where
  /-- `i` 番めの報告があるのは `i + 1` 個めの束が済んだときで、そのときに処理した断片の数を述べる。 -/
  exact : ∀ i r, reports[i]? = some r ↔ ∃ batches u, batches.length = i + 1
    ∧ Stage.Passes p o stop t batches u ∧ r = report u.generation.processed total
  increasing : (reports.map (·.current)).Pairwise (· < ·)
  total_eq : ∀ r ∈ reports, r.total = total
  /-- 最後の報告は、返った成果が処理した断片の数を述べる。 -/
  last : ∀ r, reports.getLast? = some r → r.current = g.processed

section

variable {size : BatchSize} {chunks : List Chunk} {s : Session σ} {g : Generation}

/-- 束が済めば、そのときに処理した断片の数が報告される。 -/
theorem Stage.Passes.report_eq {batches : List (List Chunk)} {u : Stage σ}
    (h : Stage.Passes p o stop (.start p size chunks s) batches u) {i : Nat}
    (hi : batches.length = i + 1) :
    (generate p o stop size chunks s).reports[i]?
      = some (report u.generation.processed chunks.length) := by
  have hlen : ((marks 0 batches).map (report · chunks.length)).length = i + 1 := by
    rw [List.length_map, length_marks, hi]
  have hne : batches ≠ [] := List.ne_nil_of_length_eq_add_one hi
  obtain ⟨later, hlater⟩ := u.prefix_reports p o stop chunks.length
    ((marks 0 batches).map (report · chunks.length))
  rw [h.generate_eq, ← hlater, List.getElem?_append_left (by omega), h.processed_start]
  have hlast := getLast?_marks hne 0
  rw [List.getLast?_eq_getElem?, length_marks, hi, Nat.zero_add] at hlast
  rw [List.getElem?_map]
  exact congrArg (Option.map (report · chunks.length)) hlast

/-- **成果が返れば、報告は正しい。** -/
theorem reported_of_ok (h : (generate p o stop size chunks s).result = .ok g) :
    Reported p o stop (.start p size chunks s) chunks.length
      (generate p o stop size chunks s).reports g := by
  obtain ⟨batches, u, hpass, hg, -, heq⟩ := generate_eq_of_ok h
  have hreports : (generate p o stop size chunks s).reports
      = (marks 0 batches).map (report · chunks.length) := congrArg Run.reports heq
  have hcurrent : ((generate p o stop size chunks s).reports.map (·.current)) = marks 0 batches := by
    rw [hreports, List.map_map]
    exact List.map_id _
  refine ⟨fun i r => ⟨fun hr => ?_, ?_⟩, ?_, fun r hr => ?_, fun r hr => ?_⟩
  · have hi : i < batches.length := by
      have hlt := (List.getElem?_eq_some_iff.mp hr).1
      rwa [hreports, List.length_map, length_marks] at hlt
    rw [← List.take_append_drop (i + 1) batches] at hpass
    obtain ⟨v, hfront, -⟩ := hpass.split
    have hlen : (batches.take (i + 1)).length = i + 1 := by
      rw [List.length_take]
      omega
    rw [hfront.report_eq hlen] at hr
    exact ⟨_, v, hlen, hfront, (Option.some.inj hr).symm⟩
  · rintro ⟨front, v, hlen, hfront, rfl⟩
    exact hfront.report_eq hlen
  · rw [hcurrent]
    exact (increasing_marks 0 hpass.ne_nil_of_mem).1
  · rw [hreports] at hr
    obtain ⟨m, -, rfl⟩ := List.mem_map.mp hr
    rfl
  · have hlast : (marks 0 batches).getLast? = some r.current := by
      rw [← hcurrent, List.getLast?_map, hr]
      rfl
    have hne : batches ≠ [] := by
      rintro rfl
      cases hlast
    rw [getLast?_marks hne, Nat.zero_add, ← hpass.processed_start, ← hg] at hlast
    exact (Option.some.inj hlast).symm

end

/--
**報告は正しく、やめるときは束の境で何もせずに終わる。**

* 成果が返れば、束が済むたびに、そのときまでに埋め込めた断片と埋め込めなかった断片の数の和が報告されて
  いる。報告は増え続け、最後の報告は成果の二つの列の長さの和である（`Reported`）。
  やめなければ、それは断片の全部の数である。
* やめたかどうかと報告の総数のほかは、処理した断片だけを渡してやめずに埋め込んだものと同じである。
* 束の境で合図があれば、その後は呼び出しも休みもなく、その境の成果が返る。呼び出しは提供元を
  `Provider.recorded` に替えて見る。断片が残っていなければ、やめたことにはならない。

合図は始めから、あるいは報告を見て、どの束の後に上げてもよい。
-/
theorem progress_exact_stop_clean (p : Provider σ) (o : EmbeddingSettings) (stop : Nat → Bool)
    (size : BatchSize) (chunks : List Chunk) (s : Session σ) :
    (∀ g, (generate p o stop size chunks s).result = .ok g →
      Reported p o stop (.start p size chunks s) chunks.length
        (generate p o stop size chunks s).reports g
      ∧ (g.cancelled = false → chunks ≠ [] →
        (generate p o stop size chunks s).reports.getLast?.map (·.current) = some chunks.length)
      ∧ generate p o (fun _ => false) size (chunks.take g.processed) s
        = { result := .ok { g with cancelled := false },
            reports := (generate p o stop size chunks s).reports.map
              fun r => report r.current g.processed,
            size := (generate p o stop size chunks s).size,
            session := (generate p o stop size chunks s).session })
    ∧ (generate p.recorded o stop size chunks s.recording).forget = generate p o stop size chunks s
    ∧ ∀ batches u,
      Stage.Passes p.recorded o stop (.start p.recorded size chunks s.recording) batches u →
      stop u.done = true →
      (generate p.recorded o stop size chunks s.recording).session = u.session
      ∧ (generate p.recorded o stop size chunks s.recording).result
        = .ok { u.generation with cancelled := !u.remaining.isEmpty }
      ∧ (generate p.recorded o stop size chunks s.recording).reports.length = batches.length := by
  refine ⟨fun g hg => ⟨reported_of_ok hg, fun hgo hne => ?_, ?_⟩,
    forget_generate p o stop size chunks s.recording, fun batches u hpass hstop => ?_⟩
  · obtain ⟨batches, u, hpass, -, hleft, heq⟩ := generate_eq_of_ok hg
    have hnil : u.remaining = [] := by simpa [hgo] using hleft
    have hchunks : chunks = batches.flatten := by
      have hall : chunks = batches.flatten ++ u.remaining := hpass.remaining_eq
      rwa [hnil, List.append_nil] at hall
    have hsome : batches ≠ [] := by
      rintro rfl
      exact hne hchunks
    rw [heq, List.getLast?_map, getLast?_marks hsome, hchunks, Nat.zero_add]
    rfl
  · obtain ⟨batches, u, hpass, hgen, -, heq⟩ := generate_eq_of_ok hg
    have hcount : g.processed = batches.flatten.length := by
      rw [← hpass.processed_start, ← hgen]
      rfl
    have htake : chunks.take g.processed = batches.flatten := by
      have hall : chunks = batches.flatten ++ u.remaining := hpass.remaining_eq
      rw [hcount, hall, List.take_left]
    rw [htake, generate_flatten hpass, heq, hgen, hcount, List.map_map]
    rfl
  · rw [generate_eq_of_stop hpass hstop]
    exact ⟨rfl, rfl, by rw [List.length_map, length_marks]⟩

/-- 二つずつ送って初めの束を断られ、四つが済んだところでやめる。報告は二つ、三つ、四つと増え、成果は初めの
四つだけを渡したときと同じである。始めから合図があれば、一度も呼び出さない。 -/
theorem progress_exact_stop_clean_interrupted :
    (∃ g, (generate (reluctant statement) { maxRetries := 1 } (fun done => 4 ≤ done) (.ofNat 2)
        remarks { peer := 1 }).result = .ok g
      ∧ g.cancelled = true ∧ g.processed = 4
      ∧ (generate (reluctant statement) { maxRetries := 1 } (fun done => 4 ≤ done) (.ofNat 2)
        remarks { peer := 1 }).reports.map (·.current) = [2, 3, 4]
      ∧ (generate (reluctant statement) { maxRetries := 1 } (fun _ => false) (.ofNat 2)
        (remarks.take 4) { peer := 1 }).result = .ok { g with cancelled := false })
    ∧ (generate (reluctant statement).recorded { maxRetries := 1 } (fun _ => true) (.ofNat 2)
        remarks (Session.recording { peer := 1 })).session.calls = [] := by
  refine ⟨?_, ?_⟩
  · have hres : (generate (reluctant statement) { maxRetries := 1 } (fun done => 4 ≤ done) (.ofNat 2)
        remarks { peer := 1 }).result.toOption.map
        (fun g => (g.cancelled, g.processed)) = some (true, 4) := by
      decide +kernel
    have hreports : (generate (reluctant statement) { maxRetries := 1 } (fun done => 4 ≤ done)
        (.ofNat 2) remarks { peer := 1 }).reports.map (·.current) = [2, 3, 4] := by
      decide +kernel
    cases hrun : (generate (reluctant statement) { maxRetries := 1 } (fun done => 4 ≤ done) (.ofNat 2)
        remarks { peer := 1 }).result with
    | error e =>
      rw [hrun] at hres
      cases hres
    | ok g =>
      rw [hrun] at hres
      obtain ⟨hcancel, hcount⟩ := Prod.mk.inj (Option.some.inj hres)
      obtain ⟨-, -, hsame⟩ := (progress_exact_stop_clean (reluctant statement) { maxRetries := 1 }
        (fun done => 4 ≤ done) (.ofNat 2) remarks { peer := 1 }).1 g hrun
      rw [hcount] at hsame
      exact ⟨g, rfl, hcancel, hcount, hreports, congrArg Run.result hsame⟩
  · obtain ⟨hsession, -⟩ := (progress_exact_stop_clean (reluctant statement) { maxRetries := 1 }
      (fun _ => true) (.ofNat 2) remarks { peer := 1 }).2.2 [] _ (.refl _) rfl
    rw [hsession]
    rfl

end Embedding

end CodeSearch

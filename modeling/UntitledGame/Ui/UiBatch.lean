import UntitledGame.Ui.UiRenderer

/-!
# The batch of the interface

A frame draws a prefix of the quads that its calls request, the longest one that the
vertex buffer has room for. Its vertices fit 16 bits, so no index is cut off, and the
index buffer, which has its own capacity, has room for its triangles. The range that
`end_` leaves in force covers the triangles, and behind them only padding.
-/

namespace UntitledGame.Ui.UiRenderer

variable {F : Type*} [Scalar F]

section Prefixes

variable {α : Type*}

/-- The longest prefix that fits. -/
structure LongestPrefix (fits : List α → Prop) (all kept : List α) : Prop where
  isPrefix : kept <+: all
  kept_fits : fits kept
  longest : ∀ other, other <+: all → fits other → other <+: kept

theorem longestPrefix_take {fits : List α → Prop} {n : Nat}
    (hfits : ∀ l, fits l ↔ l.length ≤ n) (all : List α) :
    LongestPrefix fits all (all.take n) where
  isPrefix := List.take_prefix n all
  kept_fits := (hfits _).mpr (List.length_take_le n all)
  longest other hother hlength := by
    rw [List.prefix_iff_eq_take.mp hother]
    exact List.take_prefix_take_left ((hfits other).mp hlength)

end Prefixes

/-- The vertex numbers of the triangles of the first `n` quads. -/
def vertexNumbers (n : Nat) : List Nat :=
  (List.range n).flatMap fun k => [4 * k, 4 * k + 1, 4 * k + 2, 4 * k + 2, 4 * k + 3, 4 * k]

@[simp] theorem vertexNumbers_length (n : Nat) : (vertexNumbers n).length = 6 * n := by
  simp [vertexNumbers, Nat.mul_comm]

theorem vertexNumbers_succ (n : Nat) :
    vertexNumbers (n + 1) =
      vertexNumbers n ++ [4 * n, 4 * n + 1, 4 * n + 2, 4 * n + 2, 4 * n + 3, 4 * n] := by
  rw [vertexNumbers, List.range_succ, List.flatMap_append, List.flatMap_singleton]
  rfl

theorem vertexNumbers_lt {n i : Nat} (h : i ∈ vertexNumbers n) : i < 4 * n := by
  obtain ⟨k, hk, hi⟩ := List.mem_flatMap.mp h
  have hk := List.mem_range.mp hk
  simp only [List.mem_cons, List.not_mem_nil, or_false] at hi
  omega

/-- Quads drawn without a gap, and their triangles. -/
structure Drawn (r : UiRenderer F) (drawn : List (Quad F)) : Prop where
  vertices : r.mVertices = drawn.flatMap corners
  indices : r.mIndices.map UInt16.toNat = vertexNumbers drawn.length

theorem flatMap_corners_length (drawn : List (Quad F)) :
    (drawn.flatMap corners).length = 4 * drawn.length := by
  induction drawn with
  | nil => rfl
  | cons q drawn ih =>
      rw [List.flatMap_cons, List.length_append, ih, List.length_cons]
      simp only [corners, List.length_cons, List.length_nil]
      omega

theorem Drawn.length {r : UiRenderer F} {drawn : List (Quad F)} (h : Drawn r drawn) :
    r.mVertices.length = 4 * drawn.length := by
  rw [h.vertices, flatMap_corners_length]

/-- A base in 16 bits keeps the numbers of the corners. -/
theorem triangles_toNat {base : Nat} (h : base + 3 < 0x10000) :
    (triangles (UInt16.ofNat base)).map UInt16.toNat =
      [base, base + 1, base + 2, base + 2, base + 3, base] := by
  have hbase : ∀ offset : UInt16, offset.toNat ≤ 3 →
      (UInt16.ofNat base + offset).toNat = base + offset.toNat := by
    intro offset hoffset
    rw [UInt16.toNat_add, UInt16.toNat_ofNat']
    omega
  simp only [triangles, List.map_cons, List.map_nil]
  rw [hbase 0 (by decide), hbase 1 (by decide), hbase 2 (by decide), hbase 3 (by decide)]
  rfl

/-- A quad is appended as long as there is room for it. -/
theorem Drawn.quad {r : UiRenderer F} {drawn : List (Quad F)} (h : Drawn r drawn) (q : Quad F) :
    Drawn (r.quad q) (if drawn.length < kMaxQuads then drawn ++ [q] else drawn) := by
  have hlength := h.length
  rw [UiRenderer.quad]
  by_cases hroom : drawn.length < kMaxQuads
  · have hfits : ¬ r.mVertices.length + 4 > kMaxVertices := by
      simp only [kMaxVertices, kMaxQuads] at hroom ⊢
      omega
    rw [if_neg hfits, if_pos hroom]
    constructor
    · rw [List.flatMap_append, List.flatMap_singleton, ← h.vertices]
    · have hbase : r.mVertices.length + 3 < 0x10000 := by
        simp only [kMaxQuads] at hroom
        omega
      rw [List.length_append, List.length_singleton, vertexNumbers_succ, ← h.indices, ← hlength,
        ← triangles_toNat hbase, ← List.map_append]
  · have hfull : r.mVertices.length + 4 > kMaxVertices := by
      simp only [kMaxVertices, kMaxQuads] at hroom ⊢
      omega
    rw [if_pos hfull, if_neg hroom]
    exact h

theorem drawn_foldl_quad {r : UiRenderer F} (h : Drawn r []) (quads : List (Quad F)) :
    Drawn (quads.foldl UiRenderer.quad r) (quads.take kMaxQuads) := by
  induction quads using List.reverseRecOn with
  | nil => exact h
  | append_singleton quads q ih =>
      rw [List.foldl_append, List.foldl_cons, List.foldl_nil]
      have hquad := ih.quad q
      by_cases hroom : quads.length < kMaxQuads
      · rw [List.take_of_length_le (Nat.le_of_lt hroom), if_pos hroom] at hquad
        rw [List.take_of_length_le (by simp; omega)]
        exact hquad
      · rw [List.length_take, Nat.min_eq_left (Nat.le_of_not_lt hroom),
          if_neg (Nat.lt_irrefl kMaxQuads)] at hquad
        rw [List.take_append_of_le_length (Nat.le_of_not_lt hroom)]
        exact hquad

/-- Before `end_`: whole quads, within the capacity, and indices that mean the vertices they
stand for. -/
structure Batch (requested : List (Quad F)) (r : UiRenderer F) : Prop where
  whole : 4 ∣ r.mVertices.length
  capacity : r.mVertices.length ≤ kMaxVertices
  quads : ∃ drawn, Drawn r drawn ∧
    LongestPrefix (fun quads => (quads.flatMap corners).length ≤ kMaxVertices) requested drawn
  below : ∀ i ∈ r.mIndices, i.toNat < r.mVertices.length

/-- After `end_`: the range in force covers the triangles, and behind them zeros. -/
structure Submitted (r r' : UiRenderer F) : Prop where
  covers : r.mIndices.length ≤ r'.drawRange
  whole : 3 ∣ r'.drawRange
  capacity : r'.drawRange ≤ kMaxIndices
  indices : r'.indexBuffer.take r'.drawRange =
    r.mIndices ++ List.replicate (r'.drawRange - r.mIndices.length) 0
  vertices : r'.vertexBuffer.take r.mVertices.length = r.mVertices

section Frames

theorem Drawn.batch {r : UiRenderer F} {requested : List (Quad F)}
    (h : Drawn r (requested.take kMaxQuads)) : Batch requested r where
  whole := ⟨_, h.length⟩
  capacity := by
    rw [h.length, kMaxVertices, Nat.mul_comm]
    exact Nat.mul_le_mul_right 4 (List.length_take_le kMaxQuads requested)
  quads := by
    refine ⟨_, h, longestPrefix_take (fun quads => ?_) requested⟩
    rw [flatMap_corners_length, kMaxVertices]
    omega
  below i hi := by
    have hnumber : i.toNat ∈ vertexNumbers (requested.take kMaxQuads).length := by
      rw [← h.indices]
      exact List.mem_map_of_mem hi
    rw [h.length]
    exact vertexNumbers_lt hnumber

/-- The triangles of a batch fit the index buffer. -/
theorem Batch.indices_length {requested : List (Quad F)} {r : UiRenderer F}
    (h : Batch requested r) : 3 ∣ r.mIndices.length ∧ r.mIndices.length ≤ kMaxIndices := by
  obtain ⟨drawn, hdrawn, hlongest⟩ := h.quads
  have hlength : r.mIndices.length = 6 * drawn.length := by
    rw [← List.length_map UInt16.toNat, hdrawn.indices, vertexNumbers_length]
  have hfits := hlongest.kept_fits
  rw [flatMap_corners_length] at hfits
  simp only [kMaxVertices, kMaxQuads] at hfits
  simp only [kMaxIndices, kMaxQuads]
  omega

/-- Rounding up stays a multiple of three, and the clamp cuts off none of the triangles. -/
theorem bucketed_spec {indices : Nat} (h : indices ≤ kMaxIndices) :
    indices ≤ bucketed indices ∧ 3 ∣ bucketed indices ∧ bucketed indices ≤ kMaxIndices := by
  have hmax : kMaxIndices = 49152 := rfl
  have hbucket : kIndexBucket = 384 := rfl
  have hclamped : bucketed indices =
      min ((indices + kIndexBucket - 1) / kIndexBucket * kIndexBucket) kMaxIndices := by
    rw [bucketed]
    split
    · rename_i hlarge
      exact (Nat.min_eq_right (Nat.le_of_lt hlarge)).symm
    · rename_i hsmall
      exact (Nat.min_eq_left (Nat.le_of_not_lt hsmall)).symm
  rw [hclamped, hmax, hbucket]
  omega

/-- The range in force is the last one that was set. -/
def InForce (r : UiRenderer F) : Prop :=
  r.drawRange = r.mLastDrawCount ∨ r.mLastDrawCount = kSizeMax

omit [Scalar F] in
theorem setRange_spec {r : UiRenderer F} (h : InForce r) {drawCount : Nat}
    (hle : drawCount ≤ kMaxIndices) :
    (r.setRange drawCount).drawRange = drawCount ∧ InForce (r.setRange drawCount) := by
  rw [setRange]
  split
  · exact ⟨rfl, Or.inl rfl⟩
  · rename_i hsame
    have hsame := not_not.mp hsame
    refine ⟨?_, h⟩
    rcases h with h | h
    · exact h.trans hsame.symm
    · have hmax : kMaxIndices < kSizeMax := by decide
      omega

omit [Scalar F] in
theorem setRange_buffers (r : UiRenderer F) (drawCount : Nat) :
    (r.setRange drawCount).vertexBuffer = r.vertexBuffer ∧
      (r.setRange drawCount).indexBuffer = r.indexBuffer := by
  rw [setRange]
  split
  · exact ⟨rfl, rfl⟩
  · exact ⟨rfl, rfl⟩

theorem take_upload {α : Type*} (data buffer : List α) :
    (upload data buffer).take data.length = data := List.take_left

omit [Scalar F] in
/-- Without indices the range is empty; otherwise both lists are uploaded, the indices padded. -/
theorem end_cases (r : UiRenderer F) :
    (r.mIndices = [] ∧ r.end_ = r.setRange 0) ∨
      ∃ s : UiRenderer F, r.end_ = s.setRange (bucketed r.mIndices.length) ∧
        s.drawRange = r.drawRange ∧ s.mLastDrawCount = r.mLastDrawCount ∧
        s.vertexBuffer = upload r.mVertices r.vertexBuffer ∧
        s.indexBuffer = upload (resize r.mIndices (bucketed r.mIndices.length)) r.indexBuffer := by
  rw [end_]
  split
  · rename_i hempty
    exact Or.inl ⟨List.isEmpty_iff.mp hempty, rfl⟩
  · exact Or.inr ⟨_, rfl, rfl, rfl, rfl, rfl⟩

theorem inForce_end {requested : List (Quad F)} {r : UiRenderer F} (h : InForce r)
    (hbatch : Batch requested r) : InForce r.end_ := by
  rcases end_cases r with ⟨-, hend⟩ | ⟨s, hend, hrange, hlast, -, -⟩
  · rw [hend]
    exact (setRange_spec h (Nat.zero_le _)).2
  · have hs : InForce s := by
      rw [InForce, hrange, hlast]
      exact h
    rw [hend]
    exact (setRange_spec hs (bucketed_spec hbatch.indices_length.2).2.2).2

/-- A batch without indices has no vertices. -/
theorem Batch.vertices_nil {requested : List (Quad F)} {r : UiRenderer F}
    (h : Batch requested r) (hindices : r.mIndices = []) : r.mVertices = [] := by
  obtain ⟨drawn, hdrawn, -⟩ := h.quads
  have hnumbers := congrArg List.length hdrawn.indices
  rw [hindices, vertexNumbers_length] at hnumbers
  have hnone : drawn.length = 0 := by
    simp only [List.map_nil, List.length_nil] at hnumbers
    omega
  rw [hdrawn.vertices, List.length_eq_zero_iff.mp hnone]
  rfl

theorem submitted_end {requested : List (Quad F)} {r : UiRenderer F} (h : InForce r)
    (hbatch : Batch requested r) : Submitted r r.end_ := by
  rcases end_cases r with ⟨hindices, hend⟩ | ⟨s, hend, hrange, hlast, hvertices, hindices⟩
  · have hset := (setRange_spec h (Nat.zero_le kMaxIndices)).1
    rw [← hend] at hset
    constructor
    · rw [hindices]
      exact Nat.zero_le _
    · rw [hset]
      exact Nat.dvd_zero 3
    · rw [hset]
      exact Nat.zero_le _
    · rw [hset, hindices]
      rfl
    · rw [hbatch.vertices_nil hindices]
      rfl
  · obtain ⟨hcovers, hwhole, hcapacity⟩ := bucketed_spec hbatch.indices_length.2
    have hs : InForce s := by
      rw [InForce, hrange, hlast]
      exact h
    have hset := (setRange_spec hs hcapacity).1
    have hbuffers := setRange_buffers s (bucketed r.mIndices.length)
    rw [← hend] at hset hbuffers
    rw [hvertices, hindices] at hbuffers
    have hresize : resize r.mIndices (bucketed r.mIndices.length) =
        r.mIndices ++ List.replicate (bucketed r.mIndices.length - r.mIndices.length) 0 := by
      rw [resize, List.take_of_length_le hcovers]
    have hlength : (resize r.mIndices (bucketed r.mIndices.length)).length =
        bucketed r.mIndices.length := by
      rw [hresize, List.length_append, List.length_replicate]
      omega
    constructor
    · rw [hset]
      exact hcovers
    · rw [hset]
      exact hwhole
    · rw [hset]
      exact hcapacity
    · rw [hset, hbuffers.2, ← hresize]
      nth_rewrite 1 [← hlength]
      exact take_upload _ _
    · rw [hbuffers.1]
      exact take_upload _ _

end Frames

section Runs

omit [Scalar F] in
theorem setRange_mFont (r : UiRenderer F) (drawCount : Nat) :
    (r.setRange drawCount).mFont = r.mFont := by
  rw [setRange]
  split
  · rfl
  · rfl

omit [Scalar F] in
theorem end_mFont (r : UiRenderer F) : r.end_.mFont = r.mFont := by
  rw [end_]
  split
  · exact setRange_mFont r 0
  · exact setRange_mFont _ _

/-- Drawing leaves alone what `end_` sets. -/
theorem foldl_quad_inForce {r : UiRenderer F} (h : InForce r) (quads : List (Quad F)) :
    InForce (quads.foldl UiRenderer.quad r) := by
  induction quads generalizing r with
  | nil => exact h
  | cons q quads ih =>
      refine ih ?_
      rw [UiRenderer.quad]
      split
      · exact h
      · exact h

theorem batch_draws (r : UiRenderer F) (draws : List (Draw F)) :
    Batch (draws.flatMap (requests r.mFont)) (draws.foldl draw r.begin) := by
  have hstart : Drawn r.begin [] := ⟨rfl, rfl⟩
  rw [foldl_draw]
  exact (drawn_foldl_quad hstart _).batch

theorem inForce_draws {r : UiRenderer F} (h : InForce r) (draws : List (Draw F)) :
    InForce (draws.foldl draw r.begin) := by
  have hstart : InForce r.begin := h
  rw [foldl_draw]
  exact foldl_quad_inForce hstart _

theorem frame_mFont (r : UiRenderer F) (draws : List (Draw F)) :
    (r.frame draws).mFont = r.mFont := by
  rw [frame, end_mFont, foldl_draw, foldl_quad_mFont]
  rfl

/-- Whatever frames came before, the batch of a frame is the longest prefix of the requested quads
that fits, with indices that mean their vertices, and what is submitted covers it. -/
theorem batch_integrity (font : Font F) (frames : List (List (Draw F))) (draws : List (Draw F)) :
    let r := draws.foldl draw (run font frames).begin
    Batch (draws.flatMap (requests font)) r ∧ Submitted r r.end_ := by
  have hinit : InForce (init font) := Or.inr rfl
  have hframe : ∀ (r : UiRenderer F) draws, InForce r → InForce (r.frame draws) :=
    fun r draws hr => inForce_end (inForce_draws hr draws) (batch_draws r draws)
  have hrun : InForce (run font frames) := Lib.Runs.run_preserves hframe hinit frames
  have hfont : (run font frames).mFont = font := Lib.Runs.run_frame frame_mFont (init font) frames
  have hbatch := batch_draws (run font frames) draws
  rw [hfont] at hbatch
  exact ⟨hbatch, submitted_end (inForce_draws hrun draws) hbatch⟩

end Runs

end UntitledGame.Ui.UiRenderer

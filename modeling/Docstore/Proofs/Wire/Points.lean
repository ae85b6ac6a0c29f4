import Docstore.Proofs.Wire.Bytes

/-!
# Points and polygons as bytes

A point is read from the bytes that start with what is written for it, and from no others
(`takePoint?_eq_some_iff`), and so are the points that a number announces. Main statement: `points_exact`.
-/

namespace Docstore.Wire

variable {p : Point} {ps : List Point} {bs rest : Bytes}

/-! ## Coordinates -/

@[simp] theorem length_ofDouble (x : Double) : (ofDouble x).length = 8 := length_ofNat _ _

@[simp] theorem length_ofPoint (p : Point) : (ofPoint p).length = 16 := by
  simp [ofPoint]

theorem toNat_ofDouble (x : Double) : (⟨UInt64.ofNat (toNat (ofDouble x))⟩ : Double) = x := by
  rw [ofDouble, toNat_ofNat_of_lt x.bits.toNat_lt, UInt64.ofNat_toNat]

theorem ofDouble_toNat (h : bs.length = 8) : ofDouble ⟨UInt64.ofNat (toNat bs)⟩ = bs := by
  have hlt : toNat bs < span 8 := h ▸ toNat_lt bs
  rw [ofDouble, UInt64.toNat_ofNat_of_lt' hlt, ← h, ofNat_toNat]

/-! ## Points -/

theorem takePoint?_eq_some_iff : takePoint? bs = some (p, rest) ↔ bs = ofPoint p ++ rest := by
  constructor
  · intro h
    obtain ⟨⟨x, behind⟩, hx, h⟩ := Option.bind_eq_some_iff.mp h
    obtain ⟨⟨y, behind'⟩, hy, h⟩ := Option.bind_eq_some_iff.mp h
    cases h
    obtain ⟨hxl, rfl⟩ := take?_eq_some_iff.mp hx
    obtain ⟨hyl, rfl⟩ := take?_eq_some_iff.mp hy
    rw [ofPoint, ofDouble_toNat hxl, ofDouble_toNat hyl, List.append_assoc]
  · rintro rfl
    have hx : take? 8 (ofPoint p ++ rest) = some (ofDouble p.x, ofDouble p.y ++ rest) :=
      take?_eq_some_iff.mpr ⟨length_ofDouble _, List.append_assoc _ _ _⟩
    have hy : take? 8 (ofDouble p.y ++ rest) = some (ofDouble p.y, rest) :=
      take?_eq_some_iff.mpr ⟨length_ofDouble _, rfl⟩
    rw [takePoint?, hx]
    simp only [Option.bind_eq_bind, Option.bind_some, hy, toNat_ofDouble]
    rfl

theorem takePoint?_eq_none_iff : takePoint? bs = none ↔ bs.length < 16 := by
  constructor
  · intro h
    by_contra hlength
    have hx : take? 8 bs = some (bs.take 8, bs.drop 8) := if_pos (by omega)
    have hy : take? 8 (bs.drop 8) = some ((bs.drop 8).take 8, (bs.drop 8).drop 8) :=
      if_pos (by rw [List.length_drop]; omega)
    rw [takePoint?, hx] at h
    simp only [Option.bind_eq_bind, Option.bind_some, hy] at h
    cases h
  · intro hlength
    cases h : takePoint? bs with
    | none => rfl
    | some point =>
        rw [takePoint?_eq_some_iff.mp h, List.length_append, length_ofPoint] at hlength
        omega

/-! ## Lists of points -/

theorem takePoints?_eq_some_iff {n : Nat} :
    takePoints? n bs = some ps ↔ ps.length = n ∧ ps.flatMap ofPoint <+: bs := by
  -- On the number that is announced, which the list that is read grows with.
  induction n generalizing bs ps with
  | zero =>
      constructor
      · rintro ⟨⟩
        exact ⟨rfl, List.nil_prefix⟩
      · rintro ⟨hlength, -⟩
        rw [List.length_eq_zero_iff.mp hlength]
        rfl
  | succ n ih =>
      constructor
      · intro h
        obtain ⟨⟨p, rest⟩, hp, h⟩ := Option.bind_eq_some_iff.mp h
        obtain ⟨qs, hqs, h⟩ := Option.bind_eq_some_iff.mp h
        cases h
        obtain ⟨rfl, hpart⟩ := ih.mp hqs
        rw [takePoint?_eq_some_iff.mp hp]
        exact ⟨rfl, (List.prefix_append_right_inj _).mpr hpart⟩
      · rintro ⟨hlength, hpart⟩
        cases ps with
        | nil => cases hlength
        | cons p qs =>
            obtain ⟨rest, rfl⟩ := hpart
            have hp : takePoint? ((p :: qs).flatMap ofPoint ++ rest) = some (p, qs.flatMap ofPoint ++ rest) :=
              takePoint?_eq_some_iff.mpr (List.append_assoc _ _ _)
            have hqs := ih.mpr ⟨Nat.succ.inj hlength, List.prefix_append (qs.flatMap ofPoint) rest⟩
            rw [takePoints?, hp]
            simp only [Option.bind_eq_bind, Option.bind_some, hqs]
            rfl

theorem takePoints?_eq_none_iff {n : Nat} : takePoints? n bs = none ↔ bs.length < 16 * n := by
  induction n generalizing bs with
  | zero => simp [takePoints?]
  | succ n ih =>
      cases hp : takePoint? bs with
      | none =>
          have hlength := takePoint?_eq_none_iff.mp hp
          simp only [takePoints?, hp, Option.bind_eq_bind, Option.bind_none, true_iff]
          omega
      | some point =>
          obtain ⟨p, rest⟩ := point
          have hlength : bs.length = 16 + rest.length := by
            rw [takePoint?_eq_some_iff.mp hp, List.length_append, length_ofPoint]
          have hrest : takePoints? (n + 1) bs = none ↔ takePoints? n rest = none := by
            simp only [takePoints?, hp, Option.bind_eq_bind, Option.bind_some]
            cases takePoints? n rest <;> simp
          rw [hrest, ih]
          omega

/-! ## Polygons -/

theorem fits_length {n : Nat} : Fits 4 n ↔ n < 0x80000000 := by
  have hspan : span 4 = 0x100000000 := by decide
  rw [Fits, hspan]
  omega

theorem polygon?_eq_some_iff : polygon? bs = some ps ↔ ps.length < 0x80000000 ∧ ofPolygon ps <+: bs := by
  constructor
  · intro h
    obtain ⟨⟨count, rest⟩, hcount, hread⟩ := Option.bind_eq_some_iff.mp h
    obtain ⟨hlength, rfl⟩ := take?_eq_some_iff.mp hcount
    dsimp only at hread
    split at hread
    · cases hread
    · obtain ⟨hps, hpart⟩ := takePoints?_eq_some_iff.mp hread
      have hn : (ps.length : Int) = toInt count := by omega
      have hfits : Fits 4 ps.length := hn ▸ hlength ▸ fits_toInt count
      refine ⟨fits_length.mp hfits, ?_⟩
      rw [ofPolygon, hn, ← hlength, ofInt_toInt]
      exact (List.prefix_append_right_inj _).mpr hpart
  · rintro ⟨hlength, rest, rfl⟩
    have hcount : take? 4 (ofPolygon ps ++ rest) = some (ofInt 4 ps.length, ps.flatMap ofPoint ++ rest) :=
      take?_eq_some_iff.mpr ⟨length_ofInt _ _, List.append_assoc _ _ _⟩
    have hread := toInt_ofInt (fits_length.mpr hlength)
    rw [polygon?, hcount]
    simp only [Option.bind_eq_bind, Option.bind_some, hread, Int.toNat_natCast]
    rw [if_neg (by omega)]
    exact takePoints?_eq_some_iff.mpr ⟨rfl, List.prefix_append _ _⟩

/-- What is no polygon breaks off before its number or its points end, or has a negative number. -/
theorem polygon?_eq_none_iff : polygon? bs = none ↔
    bs.length < 4 ∨ toInt (bs.take 4) < 0 ∨ (bs.length : Int) < 4 + 16 * toInt (bs.take 4) := by
  rcases Nat.lt_or_ge bs.length 4 with hshort | hlong
  · simp [polygon?, take?_eq_none_iff.mpr hshort, hshort]
  · have hcount : take? 4 bs = some (bs.take 4, bs.drop 4) := if_pos hlong
    simp only [polygon?, hcount, Option.bind_eq_bind, Option.bind_some]
    split
    · rename_i hneg
      simp [hneg]
    · rw [takePoints?_eq_none_iff, List.length_drop]
      omega

/-! ## Values -/

theorem encode_point (p : Point) : encode .point (.point p) = .ok (some (ofPoint p)) := rfl

theorem encode_polygon (ps : List Point) (h : ps.length < 0x80000000) :
    encode .polygon (.polygon ps) = .ok (some (ofPolygon ps)) := by
  show (integer 4 ps.length).map (fun _ => some (ofPolygon ps)) = _
  rw [integer_eq, if_pos (fits_length.mpr h)]
  rfl

/-- Points and polygons of less than 2 ^ 31 points are read as they were written, bit by bit. Whatever is read is
written as the bytes that it was read from, and the bytes behind those make no difference. Bytes are no point if they
are too few, and no polygon if they break off or announce a negative number of points. -/
theorem points_exact :
    (∀ p, ∃ written, encode .point (.point p) = .ok (some written) ∧ valueOf? .point written = some (.point p)) ∧
      (∀ ps : List Point, ps.length < 0x80000000 → ∃ written, encode .polygon (.polygon ps) = .ok (some written) ∧
        valueOf? .polygon written = some (.polygon ps)) ∧
      (∀ type, type = .point ∨ type = .polygon → ∀ bs v, valueOf? type bs = some v →
        ∃ written, encode type v = .ok (some written) ∧ written <+: bs ∧
          ∀ rest, valueOf? type (written ++ rest) = some v) ∧
      (∀ bs, valueOf? .point bs = none ↔ bs.length < 16) ∧
      ∀ bs, valueOf? .polygon bs = none ↔
        bs.length < 4 ∨ toInt (bs.take 4) < 0 ∨ (bs.length : Int) < 4 + 16 * toInt (bs.take 4) := by
  have hpoint (p : Point) (rest : Bytes) : valueOf? .point (ofPoint p ++ rest) = some (.point p) := by
    rw [valueOf?, takePoint?_eq_some_iff.mpr rfl]
    rfl
  have hpolygon {ps : List Point} (h : ps.length < 0x80000000) (rest : Bytes) :
      valueOf? .polygon (ofPolygon ps ++ rest) = some (.polygon ps) := by
    rw [valueOf?, polygon?_eq_some_iff.mpr ⟨h, List.prefix_append _ _⟩]
    rfl
  refine ⟨fun p => ⟨_, encode_point p, ?_⟩, fun ps h => ⟨_, encode_polygon ps h, ?_⟩, ?_, fun bs => ?_, fun bs => ?_⟩
  · simpa using hpoint p []
  · simpa using hpolygon h []
  · rintro type (rfl | rfl) bs v h
    · obtain ⟨⟨p, rest⟩, hp, rfl⟩ := Option.map_eq_some_iff.mp h
      rw [takePoint?_eq_some_iff.mp hp]
      exact ⟨_, encode_point p, List.prefix_append _ _, hpoint p⟩
    · obtain ⟨ps, hps, rfl⟩ := Option.map_eq_some_iff.mp h
      obtain ⟨hlength, hpart⟩ := polygon?_eq_some_iff.mp hps
      exact ⟨_, encode_polygon ps hlength, hpart, hpolygon hlength⟩
  · exact Option.map_eq_none_iff.trans takePoint?_eq_none_iff
  · exact Option.map_eq_none_iff.trans polygon?_eq_none_iff

/-- Coordinates that numeric equality does not tell apart, or does not find equal to themselves. -/
def oddCorners : List Point :=
  [⟨0, Double.nan⟩, ⟨⟨0x8000000000000000⟩, Double.infinity true⟩, ⟨⟨0x7ff8000000000001⟩, 0⟩]

theorem points_exact_oddCorners : ∃ written, encode .polygon (.polygon oddCorners) = .ok (some written) ∧
    valueOf? .polygon written = some (.polygon oddCorners) ∧
    valueOf? .polygon (written ++ [0xff]) = some (.polygon oddCorners) := by
  obtain ⟨written, hwritten, hread⟩ := points_exact.2.1 oddCorners (by decide)
  obtain ⟨written', hwritten', -, hrest⟩ := points_exact.2.2.1 .polygon (.inr rfl) written _ hread
  obtain rfl : written = written' := Option.some.inj (Except.ok.inj (hwritten.symm.trans hwritten'))
  exact ⟨written, hwritten, hread, hrest _⟩

end Docstore.Wire

import Mathlib
import QuadMosaic.Proofs.Steps
import QuadMosaic.Pyramid.Estimate

/-!
# The detail that a resolution keeps

A resolution is estimated by putting the same question to a rule at five pixels of every source: how
fine must the pyramid be here?  The estimate is the greatest answer, or the floor when no answer
exceeds it.  So the order of the sources does not matter, and one more source never lowers it.

The questions are listed here apart from the answers (`queries`).  A rule may carry an effect, and
whatever the effect is, it happens once for each question, in the order of the list.  A resolution
that is given instead takes the place of the greatest answer only after all questions were put.
-/

namespace QuadMosaic

namespace Resolution

/-! ## The sample pixels -/

theorem samplePixels_eq (cols rows : Int) : samplePixels cols rows =
    [(cols / 2, rows / 2), (cols / 2 + cols / 4, rows / 2), (cols / 2 - cols / 4, rows / 2),
      (cols / 2, rows / 2 + rows / 4), (cols / 2, rows / 2 - rows / 4)] := by
  have hpart (length k : Int) (hk : 0 ≤ k) :
      Coordinate.floorDiv length (Coordinate.ofInt k) = length / k :=
    Int.fdiv_eq_ediv_of_nonneg length hk
  simp only [samplePixels, hpart _ 2 (by decide), hpart _ 4 (by decide)]

/-- The sample pixels of an image lie inside it. -/
theorem samplePixels_inside {cols rows : Int} (hcols : 1 ≤ cols) (hrows : 1 ≤ rows)
    {place : Int × Int} (h : place ∈ samplePixels cols rows) :
    (0 ≤ place.1 ∧ place.1 < cols) ∧ 0 ≤ place.2 ∧ place.2 < rows := by
  rw [samplePixels_eq] at h
  simp only [List.mem_cons, List.not_mem_nil, or_false] at h
  rcases h with rfl | rfl | rfl | rfl | rfl <;> omega

/-! ## Questions and answers -/

/-- A question to a rule: the pixels on a full turn that keep the detail at a source pixel. -/
structure Query (α : Type) where
  profile : Profile
  transfer : Transfer α
  x : Int
  y : Int

variable {α : Type}

/-- A rule that answers every question, and has an effect before it does. -/
def answering {m : Type → Type} [Monad m] (effect : Query α → m PUnit) (answer : Query α → Int) :
    Profile → Transfer α → Int → Int → m Int := fun profile transfer x y ↦ do
  effect ⟨profile, transfer, x, y⟩
  pure (answer ⟨profile, transfer, x, y⟩)

/-- The questions about one source, whose pixels are carried to longitudes and latitudes. -/
def queriesAt (profile : Profile) (transfer : Transfer α) (cols rows : Int) : List (Query α) :=
  (samplePixels cols rows).map fun place ↦ ⟨profile, transfer, place.1, place.2⟩

/-- The questions about some sources in order; `onGlobe` gives the longitudes and latitudes on the
datum of a georeference. -/
def queries (profile : Profile) (onGlobe : Georeference α → Georeference α)
    (sources : List (RasterSource α × Georeference α)) : List (Query α) :=
  sources.flatMap fun (source, g) ↦ queriesAt profile ⟨g, onGlobe g⟩ source.cols source.rows

/-- The greatest answer to some questions, or a floor. -/
def greatestAnswer (answer : Query α → Int) (floor : Int) (questions : List (Query α)) : Int :=
  questions.foldl (fun total question ↦ max total (answer question)) floor

/-- All that the total of an estimate can be: the floor, or an answer. -/
def totals (answer : Query α → Int) (floor : Int) (questions : List (Query α)) : Set Int :=
  insert floor {n | ∃ question ∈ questions, answer question = n}

theorem isGreatest_greatestAnswer (answer : Query α → Int) (floor : Int)
    (questions : List (Query α)) :
    IsGreatest (totals answer floor questions) (greatestAnswer answer floor questions) := by
  induction questions generalizing floor with
  | nil => simp [totals, greatestAnswer]
  | cons question questions ih =>
    -- the first answer joins the floor, below which nothing is answered any more
    obtain ⟨hmem, hle⟩ := ih (max floor (answer question))
    have hstart : max floor (answer question) ≤
        greatestAnswer answer (max floor (answer question)) questions :=
      hle (Set.mem_insert _ _)
    constructor
    · rcases hmem with heq | ⟨other, hother, heq⟩
      · change greatestAnswer answer (max floor (answer question)) questions ∈ _
        rw [heq]
        rcases max_choice floor (answer question) with h | h <;> rw [h]
        · exact Set.mem_insert _ _
        · exact .inr ⟨question, List.mem_cons_self, rfl⟩
      · exact .inr ⟨other, List.mem_cons_of_mem _ hother, heq⟩
    · rintro n (rfl | ⟨other, hother, rfl⟩)
      · exact (le_max_left _ _).trans hstart
      · rcases List.mem_cons.1 hother with rfl | hother
        · exact (le_max_right _ _).trans hstart
        · exact hle (.inr ⟨other, hother, rfl⟩)

/-! ## The estimate -/

section

variable {m : Type → Type} [Monad m] (effect : Query α → m PUnit) (answer : Query α → Int)

/-- The greatest answer to some questions, or a floor, found by asking them in order. -/
def ask (floor : Int) (questions : List (Query α)) : m Int := do
  forM questions effect
  pure (greatestAnswer answer floor questions)

variable [LawfulMonad m]

theorem ask_append (floor : Int) (first more : List (Query α)) :
    ask effect answer floor (first ++ more) = (do
      let total ← ask effect answer floor first
      ask effect answer total more) := by
  simp [ask, greatestAnswer]

variable {effect answer}

/-- Steps that each ask some questions ask all of them. -/
theorem foldlM_eq_ask {β : Type} {step : Int → β → m Int} {questions : β → List (Query α)}
    {l : List β} (h : ∀ total, ∀ b ∈ l, step total b = ask effect answer total (questions b))
    (floor : Int) : l.foldlM step floor = ask effect answer floor (l.flatMap questions) := by
  induction l generalizing floor with
  | nil => simp [ask, greatestAnswer]
  | cons b l ih =>
    rw [List.foldlM_cons, List.flatMap_cons, ask_append, h floor b List.mem_cons_self]
    exact bind_congr fun total ↦ ih (fun k c hc ↦ h k c (List.mem_cons_of_mem b hc)) total

variable [Scalar α] [MonadExceptOf Fault m] {profile : Profile}
  {onGlobe : Georeference α → Georeference α}
  {sources : List (RasterSource α × Georeference α)}

/-- The questions about one source. -/
theorem raiseFor_eq_ask {g : Georeference α}
    (h : Georeference.geographic g.crs.datum = .ok (onGlobe g)) (source : RasterSource α)
    (total : Int) : raiseFor (answering effect answer) profile total source g =
      ask effect answer total (queriesAt profile ⟨g, onGlobe g⟩ source.cols source.rows) := by
  unfold raiseFor queriesAt
  rw [h]
  change (pure (onGlobe g) >>= _) = _
  rw [pure_bind, List.map_eq_flatMap]
  refine foldlM_eq_ask (fun k place _ ↦ ?_) total
  simp [answering, ask, greatestAnswer]

/-- The questions about all sources, asked before a resolution that is given takes effect. -/
theorem estimate_eq_ask
    (h : ∀ p ∈ sources, Georeference.geographic p.2.crs.datum = .ok (onGlobe p.2))
    (aspectRatio : Int) (override : Option Int) :
    estimate (answering effect answer) profile sources aspectRatio override = (do
      let total ← ask effect answer least (queries profile onGlobe sources)
      pure ⟨override.getD total, aspectRatio⟩ : m Resolution) := by
  unfold estimate
  have hall : sources.foldlM (fun total (source, g) ↦
      raiseFor (answering effect answer) profile total source g) (Coordinate.ofInt least) =
        (ask effect answer least (queries profile onGlobe sources) : m Int) :=
    foldlM_eq_ask (fun total p hp ↦ raiseFor_eq_ask (h p hp) p.1 total) least
  rw [hall]

end

/-- Whatever the effect of the rule is, an estimate asks all questions about its sources in order,
and then takes the resolution that is given or else a total. -/
def Estimates [Scalar α] {m : Type → Type} [Monad m] [MonadExceptOf Fault m]
    (effect : Query α → m PUnit) (answer : Query α → Int) (profile : Profile)
    (onGlobe : Georeference α → Georeference α)
    (sources : List (RasterSource α × Georeference α)) (aspectRatio total : Int) : Prop :=
  ∀ override : Option Int,
    estimate (answering effect answer) profile sources aspectRatio override = (do
      forM (queries profile onGlobe sources) effect
      pure ⟨override.getD total, aspectRatio⟩ : m Resolution)

section

variable [Scalar α] {m : Type → Type} [Monad m] [LawfulMonad m] [MonadExceptOf Fault m]
  {profile : Profile} {onGlobe : Georeference α → Georeference α}
  {sources others : List (RasterSource α × Georeference α)}

theorem estimates_greatestAnswer (effect : Query α → m PUnit) (answer : Query α → Int)
    (h : ∀ p ∈ sources, Georeference.geographic p.2.crs.datum = .ok (onGlobe p.2))
    (aspectRatio : Int) :
    Estimates effect answer profile onGlobe sources aspectRatio
      (greatestAnswer answer least (queries profile onGlobe sources)) := by
  intro override
  rw [estimate_eq_ask h]
  simp [ask]

omit [Scalar α] in
/-- More sources are asked about more. -/
theorem totals_mono (h : sources ⊆ others) (answer : Query α → Int) (floor : Int) :
    totals answer floor (queries profile onGlobe sources) ⊆
      totals answer floor (queries profile onGlobe others) := by
  refine Set.insert_subset_insert ?_
  rintro n ⟨question, hquestion, rfl⟩
  obtain ⟨p, hp, hquestion⟩ := List.mem_flatMap.1 hquestion
  exact ⟨question, List.mem_flatMap.2 ⟨p, h hp, hquestion⟩, rfl⟩

end

/-! ## The usual rule -/

/-- A power of two between two bounds. -/
def IsPowerWithin (low high : Nat) (n : Int) : Prop := ∃ k, low ≤ k ∧ k ≤ high ∧ n = 2 ^ k

theorem IsPowerWithin.max {low high : Nat} {n m : Int} (hn : IsPowerWithin low high n)
    (hm : m = 0 ∨ IsPowerWithin 0 high m) : IsPowerWithin low high (Max.max n m) := by
  obtain ⟨k, hlow, hhigh, rfl⟩ := hn
  rcases hm with rfl | ⟨j, -, hj, rfl⟩
  · rw [max_eq_left (by positivity)]
    exact ⟨k, hlow, hhigh, rfl⟩
  · rcases le_total k j with hkj | hjk
    · rw [max_eq_right (pow_le_pow_right₀ (by decide) hkj)]
      exact ⟨j, hlow.trans hkj, hj, rfl⟩
    · rw [max_eq_left (pow_le_pow_right₀ (by decide) hjk)]
      exact ⟨k, hlow, hhigh, rfl⟩

/-- A step of any number of degrees asks for a power of two, or for nothing. -/
theorem of_pixelsFor {degrees : Float} {n : Int} (h : pixelsFor degrees = .ok n) :
    n = 0 ∨ IsPowerWithin 0 30 n := by
  unfold pixelsFor at h
  split at h
  · cases h
    exact .inl rfl
  · split at h
    · cases h
      exact .inr ⟨30, by decide, by decide, rfl⟩
    · obtain ⟨power, hpower, h⟩ := exists_of_bind_eq_ok h
      cases h
      obtain ⟨exponent, -, hpower⟩ := exists_of_bind_eq_ok hpower
      cases hpower
      refine .inr ⟨(Max.max 0 (min exponent greatestPower)).toNat, by omega, ?_, ?_⟩
      · unfold greatestPower
        omega
      · exact Nat.cast_pow 2 _

theorem of_geodetic {project : Projector Float} {profile : Profile} {transfer : Transfer Float}
    {x y n : Int} (h : geodetic project profile transfer x y = .ok n) :
    n = 0 ∨ IsPowerWithin 0 30 n := by
  unfold geodetic geodeticAt at h
  split at h
  · cases h
  · obtain ⟨f, -, h⟩ := exists_of_bind_eq_ok h
    exact of_pixelsFor h

/-- The usual rule leads to a power of two, whatever the maps between reference systems give. -/
theorem isPowerWithin_of_estimate {project : Projector Float} {profile : Profile}
    {sources : List (RasterSource Float × Georeference Float)} {aspectRatio : Int} {r : Resolution}
    (h : estimate (geodetic project) profile sources aspectRatio none =
      (.ok r : Except Fault Resolution)) : IsPowerWithin 10 30 r.total := by
  obtain ⟨total, htotal, h⟩ := exists_of_bind_eq_ok h
  cases h
  refine keeps_of_foldlM (fun total p _ raised hraised hpower ↦ ?_) htotal
    ⟨10, by decide, by decide, rfl⟩
  obtain ⟨target, -, hraised⟩ := exists_of_bind_eq_ok hraised
  refine keeps_of_foldlM (fun total place _ raised hraised hpower ↦ ?_) hraised hpower
  obtain ⟨n, hn, hraised⟩ := exists_of_bind_eq_ok hraised
  cases hraised
  exact hpower.max (of_geodetic hn)

/-! ## The total -/

/-- A resolution is estimated as the greatest answer of a rule, or 1024 when none exceeds it, for
every rule that answers all questions and whatever effect it has: the questions are about five pixels
inside each source, they are asked in order, and a resolution that is given changes neither them nor
their order but takes the place of the greatest answer.  The total is the same in whichever order
the sources come, and no less when one is added.

With the usual rule the total, if there is one, is a power of two from `2 ^ 10` to `2 ^ 30`, whatever
points the maps between reference systems give. -/
theorem estimate_greatest_answer [Scalar α] {m : Type → Type} [Monad m] [LawfulMonad m]
    [MonadExceptOf Fault m] (effect : Query α → m PUnit) (answer : Query α → Int)
    (profile : Profile) (onGlobe : Georeference α → Georeference α)
    (sources : List (RasterSource α × Georeference α)) (aspectRatio : Int)
    (hglobe : ∀ p ∈ sources, Georeference.geographic p.2.crs.datum = .ok (onGlobe p.2)) :
    (∃ total, IsGreatest (totals answer 1024 (queries profile onGlobe sources)) total ∧
      (∀ others, others.Perm sources →
        Estimates effect answer profile onGlobe others aspectRatio total) ∧
      ∀ added others, Georeference.geographic added.2.crs.datum = .ok (onGlobe added.2) →
        others.Perm (added :: sources) → ∃ more, total ≤ more ∧
          Estimates effect answer profile onGlobe others aspectRatio more) ∧
    (∀ p ∈ sources, 1 ≤ p.1.cols → 1 ≤ p.1.rows →
      (samplePixels (p.1.cols : Int) (p.1.rows : Int)).length = 5 ∧
      ∀ place ∈ samplePixels (p.1.cols : Int) (p.1.rows : Int),
        (0 ≤ place.1 ∧ place.1 < p.1.cols) ∧ 0 ≤ place.2 ∧ place.2 < p.1.rows) ∧
    ∀ (project : Projector Float) (placed : List (RasterSource Float × Georeference Float))
      (r : Resolution), estimate (geodetic project) profile placed aspectRatio none =
        (.ok r : Except Fault Resolution) → ∃ k, 10 ≤ k ∧ k ≤ 30 ∧ r.total = 2 ^ k := by
  refine ⟨⟨greatestAnswer answer 1024 (queries profile onGlobe sources),
    isGreatest_greatestAnswer answer 1024 _, fun others hothers ↦ ?_,
    fun added others hadded hothers ↦ ?_⟩, fun p _ hcols hrows ↦ ⟨?_, fun place hplace ↦ ?_⟩,
    fun project placed r hr ↦ isPowerWithin_of_estimate hr⟩
  · -- sources in another order are asked the same questions, of which one set has one greatest answer
    have hsame : totals answer 1024 (queries profile onGlobe others) =
        totals answer 1024 (queries profile onGlobe sources) :=
      (totals_mono hothers.subset answer 1024).antisymm
        (totals_mono hothers.symm.subset answer 1024)
    have hgreatest := isGreatest_greatestAnswer answer 1024 (queries profile onGlobe others)
    rw [hsame] at hgreatest
    rw [(isGreatest_greatestAnswer answer 1024 _).unique hgreatest]
    exact estimates_greatestAnswer effect answer (fun p hp ↦ hglobe p (hothers.subset hp))
      aspectRatio
  · refine ⟨greatestAnswer answer 1024 (queries profile onGlobe others), ?_,
      estimates_greatestAnswer effect answer (fun p hp ↦ ?_) aspectRatio⟩
    · have hmore : sources ⊆ others := fun p hp ↦
        hothers.symm.subset (List.mem_cons_of_mem added hp)
      exact (isGreatest_greatestAnswer answer 1024 _).mono
        (isGreatest_greatestAnswer answer 1024 _) (totals_mono hmore answer 1024)
    · rcases List.mem_cons.1 (hothers.subset hp) with rfl | hp
      · exact hadded
      · exact hglobe p hp
  · rw [samplePixels_eq]
    rfl
  · exact samplePixels_inside (by omega) (by omega) hplace

/-- An image of four columns and four rows with its place on the globe. -/
def plainScene (name : String) : RasterSource Float × Georeference Float :=
  (⟨⟨"", [name]⟩, .gray, .uint8, 4, 4, 1, none, none, Affine.identity⟩,
    ⟨⟨"", [], Datum.wgs84, true⟩, Affine.identity⟩)

/-- A rule without effect that asks for a thousand for each column to the left. -/
def byColumn : Profile → Transfer Float → Int → Int → Except Fault Int :=
  answering (fun _ ↦ pure ⟨⟩) fun question ↦ 1000 * question.x

/-- Of two such images the fourth column asks for the most, in either order. -/
theorem estimate_greatest_answer_of_two_scenes :
    ∃ globe : Georeference Float, (∀ p ∈ [plainScene "a.tif", plainScene "b.tif"],
        Georeference.geographic p.2.crs.datum = .ok globe) ∧
      estimate byColumn .kml [plainScene "b.tif", plainScene "a.tif"] 1 none =
        (.ok ⟨3000, 1⟩ : Except Fault Resolution) := by
  obtain ⟨globe, hbuild⟩ : ∃ globe, (Georeference.geographic Datum.wgs84 :
    Except Fault (Georeference Float)) = .ok globe := ⟨_, rfl⟩
  have hglobe : ∀ p ∈ [plainScene "a.tif", plainScene "b.tif"],
      Georeference.geographic p.2.crs.datum = .ok globe := by
    intro p hp
    rcases List.mem_pair.1 hp with rfl | rfl <;> exact hbuild
  refine ⟨globe, hglobe, ?_⟩
  obtain ⟨⟨total, -, hperm, -⟩, -, -⟩ :=
    estimate_greatest_answer (m := Except Fault) (fun _ ↦ pure ⟨⟩) (fun question ↦ 1000 * question.x)
      .kml (fun _ ↦ globe) _ 1 hglobe
  have hfirst : (.ok ⟨3000, 1⟩ : Except Fault Resolution) = .ok ⟨total, 1⟩ :=
    hperm [plainScene "a.tif", plainScene "b.tif"] (List.Perm.refl _) none
  rw [hfirst]
  exact hperm [plainScene "b.tif", plainScene "a.tif"] (List.Perm.swap _ _ _) none

end Resolution

end QuadMosaic

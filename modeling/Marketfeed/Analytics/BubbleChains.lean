import Marketfeed.Analytics.BubbleMerge

/-!
# Which bubbles are merged

Two bubbles of enabled tiers end in one merged bubble iff a chain of near enabled bubbles connects them
and no bubble of a disabled tier lies between them (`merge_groups`). The walk over the sorted bubbles
stops at a disabled one, so one that lies between splits what its neighbours would have joined
(`disabled_bubble_splits`); where none does, the disabled bubbles make no difference.
-/

namespace Marketfeed.BubbleDetector

variable {d : BubbleDetector} {bubbles : List OrderFlowBubble} {a b x y : OrderFlowBubble}

/-! ## The merge order -/

/-- Bubbles of one segment and direction. -/
def SameSide (a b : OrderFlowBubble) : Prop := a.segment = b.segment ∧ a.direction = b.direction

lemma SameSide.symm (h : SameSide a b) : SameSide b a := ⟨h.1.symm, h.2.symm⟩

lemma SameSide.trans (h : SameSide a b) (h' : SameSide b x) : SameSide a x :=
  ⟨h.1.trans h'.1, h.2.trans h'.2⟩

/-- The price that the merge order compares. -/
def priceKey (b : OrderFlowBubble) : Int := b.anchorPrice.fixed.coefficient

lemma priceKey_le (hside : SameSide a b) (h : mergeOrder a ≤ mergeOrder b) : priceKey a ≤ priceKey b := by
  simp only [mergeOrder, Prod.Lex.toLex_le_toLex, hside.1, hside.2] at h
  unfold priceKey
  omega

/-- What lies between two bubbles of one side is of that side. -/
lemma sameSide_of_between (hside : SameSide a b) (hax : mergeOrder a ≤ mergeOrder x)
    (hxb : mergeOrder x ≤ mergeOrder b) : SameSide a x := by
  simp only [mergeOrder, Prod.Lex.toLex_le_toLex, hside.1, hside.2] at hax hxb
  have hranks : b.segment.rank = x.segment.rank ∧ b.direction.rank = x.direction.rank := by omega
  rw [SameSide, hside.1, hside.2]
  constructor
  · revert hranks
    cases b.segment <;> cases x.segment <;> simp [MarketSegment.rank]
  · revert hranks
    cases b.direction <;> cases x.direction <;> simp [BubbleDirection.rank]

/-- The price of a bubble is that of its bucket. -/
lemma priceKey_eq (hgrid : d.grid.Valid) (hb : IsUnmerged d.grid b) :
    priceKey b = d.bucketOf b * (d.grid.tickSize.coefficient * d.grid.levelsPerBucket) := by
  obtain ⟨bucket, hbucket, -, -, hprice⟩ := hb.priceBucket_eq_ok hgrid
  rw [bucketOf, hbucket, priceKey, hprice]
  rfl

lemma bucketOf_le (hgrid : d.grid.Valid) (ha : IsUnmerged d.grid a) (hb : IsUnmerged d.grid b)
    (h : priceKey a ≤ priceKey b) : d.bucketOf a ≤ d.bucketOf b := by
  rw [priceKey_eq hgrid ha, priceKey_eq hgrid hb] at h
  exact le_of_mul_le_mul_right h (mul_pos hgrid.tick_pos hgrid.levels_pos)

/-- Bubbles of one side have different prices. -/
lemma AreUnmerged.eq_of_priceKey (h : AreUnmerged d.grid bubbles) (ha : a ∈ bubbles) (hb : b ∈ bubbles)
    (hside : SameSide a b) (hkey : priceKey a = priceKey b) : a = b := by
  by_contra hne
  have : Std.Symm fun b c : OrderFlowBubble =>
      ¬ (b.segment = c.segment ∧ b.anchorPrice = c.anchorPrice) :=
    ⟨fun _ _ hne heq => hne ⟨heq.1.symm, heq.2.symm⟩⟩
  refine h.distinct.forall ha hb hne ⟨hside.1, ?_⟩
  obtain ⟨_, -, hpa⟩ := (h.each a ha).anchor
  obtain ⟨_, -, hpb⟩ := (h.each b hb).anchor
  rw [priceKey, priceKey, hpa, hpb] at hkey
  rw [hpa, hpb]
  exact congrArg (fun c => (⟨⟨c, d.grid.priceScale⟩⟩ : Price)) hkey

/-! ## Chains -/

/-- A step of a chain: to a near bubble of the same side, of an enabled tier. -/
def Near (d : BubbleDetector) (bubbles : List OrderFlowBubble) (a b : OrderFlowBubble) : Prop :=
  b ∈ bubbles ∧ d.config.merge.enabled b.tier ∧ SameSide a b ∧
    (d.bucketOf a - d.bucketOf b).natAbs ≤ d.config.merge.maxDistanceBuckets

/-- No bubble of a disabled tier lies between the two. -/
def NothingBetween (d : BubbleDetector) (bubbles : List OrderFlowBubble) (a b : OrderFlowBubble) : Prop :=
  ∀ x ∈ bubbles, SameSide a x → d.config.merge.enabled x.tier = false →
    ¬ (priceKey a < priceKey x ∧ priceKey x < priceKey b) ∧ ¬ (priceKey b < priceKey x ∧ priceKey x < priceKey a)

lemma NothingBetween.symm (h : NothingBetween d bubbles a b) (hside : SameSide a b) :
    NothingBetween d bubbles b a :=
  fun x hx hbx hdisabled => (h x hx (hside.trans hbx) hdisabled).symm

lemma linked_iff : d.linked a b = true ↔ d.config.merge.enabled a.tier ∧
    d.config.merge.enabled b.tier ∧ SameSide a b ∧
    (d.bucketOf a - d.bucketOf b).natAbs ≤ d.config.merge.maxDistanceBuckets := by
  rw [linked, decide_eq_true_iff, SameSide, and_assoc]

lemma connected_of_isChain {first : OrderFlowBubble} {others : List OrderFlowBubble}
    (hchain : (first :: others).IsChain fun a b => d.linked a b)
    (hmem : ∀ x ∈ first :: others, x ∈ bubbles) : ∀ x ∈ first :: others,
      Relation.ReflTransGen (Near d bubbles) first x ∧ Relation.ReflTransGen (Near d bubbles) x first := by
  induction others generalizing first with
  | nil =>
    intro x hx
    rw [List.mem_singleton.mp hx]
    exact ⟨.refl, .refl⟩
  | cons next others ih =>
    obtain ⟨hlinked, hrest⟩ := List.isChain_cons_cons.mp hchain
    obtain ⟨hfirst, hnext, hside, hdistance⟩ := linked_iff.mp hlinked
    rw [List.forall_mem_cons] at hmem
    have hnear : Near d bubbles first next := ⟨hmem.2 _ List.mem_cons_self, hnext, hside, hdistance⟩
    have hback : Near d bubbles next first :=
      ⟨hmem.1, hfirst, hside.symm, by rwa [← Int.natAbs_neg, neg_sub]⟩
    refine List.forall_mem_cons.mpr ⟨⟨.refl, .refl⟩, fun x hx => ?_⟩
    obtain ⟨hto, hfrom⟩ := ih hrest hmem.2 x hx
    exact ⟨.head hnear hto, hfrom.tail hback⟩

/-- A chain can be walked backwards. -/
lemma reverse_connected (ha : a ∈ bubbles) (hea : d.config.merge.enabled a.tier)
    (h : Relation.ReflTransGen (Near d bubbles) a b) : Relation.ReflTransGen (Near d bubbles) b a := by
  have hend : ∀ c, Relation.ReflTransGen (Near d bubbles) a c →
      c ∈ bubbles ∧ d.config.merge.enabled c.tier := by
    intro c hc
    rcases Relation.ReflTransGen.cases_tail hc with rfl | ⟨c', -, hnear⟩
    · exact ⟨ha, hea⟩
    · exact ⟨hnear.1, hnear.2.1⟩
  induction h with
  | refl => exact .refl
  | @tail c c' hpath hnear ih =>
    obtain ⟨hmem, henabled⟩ := hend c hpath
    refine .head ⟨hmem, henabled, hnear.2.2.1.symm, ?_⟩ ih
    rw [← Int.natAbs_neg, neg_sub]
    exact hnear.2.2.2

variable {group : List OrderFlowBubble}

/-- A group of several bubbles has enabled ones only. -/
lemma enabled_of_isChain (hchain : group.IsChain fun a b => d.linked a b) :
    ∀ x ∈ group, group = [x] ∨ d.config.merge.enabled x.tier := by
  induction group with
  | nil => exact fun _ hx => absurd hx List.not_mem_nil
  | cons first group ih =>
    rcases group with _ | ⟨next, group⟩
    · exact fun x hx => .inl (by rw [List.mem_singleton.mp hx])
    · obtain ⟨hlinked, hrest⟩ := List.isChain_cons_cons.mp hchain
      obtain ⟨hfirst, hnext, -⟩ := linked_iff.mp hlinked
      refine List.forall_mem_cons.mpr ⟨.inr hfirst, fun x hx => .inr ?_⟩
      rcases ih hrest x hx with hsingle | henabled
      · rw [← (List.cons.inj hsingle).1]
        exact hnext
      · exact henabled

/-! ## The groups -/

variable (d) in
/-- The groups of a merge. -/
def mergeGroups (bubbles : List OrderFlowBubble) : List (List OrderFlowBubble) :=
  (sortOn mergeOrder bubbles).splitBy d.linked

lemma flatten_mergeGroups : (d.mergeGroups bubbles).flatten = sortOn mergeOrder bubbles :=
  List.flatten_splitBy _ _

variable {before after : List (List OrderFlowBubble)}

/-- The groups before a group, the group and those after it are in order. -/
lemma mergeOrder_le_of_groups (h : d.mergeGroups bubbles = before ++ group :: after) :
    (∀ x ∈ before.flatten, ∀ y ∈ group, mergeOrder x ≤ mergeOrder y) ∧
      (∀ x ∈ group, ∀ y ∈ after.flatten, mergeOrder x ≤ mergeOrder y) ∧
      group.Pairwise (fun x y => mergeOrder x ≤ mergeOrder y) ∧
      after.flatten.Pairwise (fun x y => mergeOrder x ≤ mergeOrder y) := by
  have hsorted := pairwise_sortOn mergeOrder bubbles
  rw [← flatten_mergeGroups (d := d), h, List.flatten_append, List.flatten_cons, List.pairwise_append,
    List.pairwise_append] at hsorted
  obtain ⟨-, ⟨hgroup, hafter, hcross⟩, hbefore⟩ := hsorted
  exact ⟨fun x hx y hy => hbefore x hx y (List.mem_append_left _ hy), hcross, hgroup, hafter⟩

lemma mem_bubbles (hgroup : group ∈ d.mergeGroups bubbles) (hx : x ∈ group) : x ∈ bubbles :=
  (mem_sortOn mergeOrder).mp (flatten_mergeGroups (d := d) ▸ List.mem_flatten.mpr ⟨group, hgroup, hx⟩)

lemma mem_bubbles_after (hsplit : d.mergeGroups bubbles = before ++ group :: after)
    (hx : x ∈ after.flatten) : x ∈ bubbles := by
  obtain ⟨later, hlater, hx⟩ := List.mem_flatten.mp hx
  have hgroup : later ∈ d.mergeGroups bubbles :=
    hsplit ▸ List.mem_append_right _ (List.mem_cons_of_mem _ hlater)
  exact mem_bubbles hgroup hx

/-- **Bubbles of one group are connected**, and nothing lies between them. -/
theorem together_of_mem_group (hgroup : group ∈ d.mergeGroups bubbles) (ha : a ∈ group)
    (hb : b ∈ group) :
    Relation.ReflTransGen (Near d bubbles) a b ∧ NothingBetween d bubbles a b := by
  have hchain : group.IsChain fun a b => d.linked a b := List.isChain_of_mem_splitBy hgroup
  obtain ⟨before, after, hsplit⟩ := List.append_of_mem hgroup
  obtain ⟨hbefore, hafter, -, -⟩ := mergeOrder_le_of_groups hsplit
  constructor
  · rcases group with _ | ⟨first, others⟩
    · exact absurd ha List.not_mem_nil
    · have hall := connected_of_isChain hchain fun x hx => mem_bubbles hgroup hx
      exact (hall a ha).2.trans (hall b hb).1
  · intro x hx hside hdisabled
    -- A bubble between two of the group is in the group, which has no disabled one beside others.
    have hbetween {p q : OrderFlowBubble} (hp : p ∈ group) (hq : q ∈ group) (hpx : SameSide p x)
        (hqx : SameSide q x) : ¬ (priceKey p < priceKey x ∧ priceKey x < priceKey q) := by
      rintro ⟨hlt, hlt'⟩
      have hmem : x ∈ before.flatten ++ (group ++ after.flatten) := by
        rw [← List.flatten_cons, ← List.flatten_append, ← hsplit, flatten_mergeGroups]
        exact (mem_sortOn mergeOrder).mpr hx
      rcases List.mem_append.mp hmem with hmem | hmem
      · exact absurd (priceKey_le hpx.symm (hbefore x hmem p hp)) (not_le.mpr hlt)
      · rcases List.mem_append.mp hmem with hmem | hmem
        · rcases enabled_of_isChain hchain x hmem with hsingle | henabled
          · rw [hsingle, List.mem_singleton] at hp
            rw [hp] at hlt
            exact lt_irrefl _ hlt
          · cases hdisabled.symm.trans henabled
        · exact absurd (priceKey_le hqx (hafter q hq x hmem)) (not_le.mpr hlt')
    have hab : SameSide a b := by
      rcases group with _ | ⟨first, others⟩
      · exact absurd ha List.not_mem_nil
      · have hsame := same_of_isChain hchain
        exact ⟨(hsame a ha).1.trans (hsame b hb).1.symm, (hsame a ha).2.trans (hsame b hb).2.symm⟩
    exact ⟨hbetween ha hb hside (hab.symm.trans hside), hbetween hb ha (hab.symm.trans hside) hside⟩

/-- **Between a group and what comes after it**: its last bubble and the next one are not linked, and
every bubble is on one of their sides. -/
theorem exists_boundary (hsplit : d.mergeGroups bubbles = before ++ group :: after)
    (hafter : after.flatten ≠ []) :
    ∃ x ∈ group, ∃ y ∈ after.flatten, x ∈ group.getLast? ∧ d.linked x y = false ∧
      (∀ z ∈ bubbles, mergeOrder z ≤ mergeOrder x ∨ mergeOrder y ≤ mergeOrder z) ∧
      (∀ z ∈ group, mergeOrder z ≤ mergeOrder x) ∧ ∀ z ∈ after.flatten, mergeOrder y ≤ mergeOrder z := by
  obtain ⟨hbefore, hcross, hgroup, hsorted⟩ := mergeOrder_le_of_groups hsplit
  have hbreaks := List.isChain_getLast_head_splitBy d.linked (sortOn mergeOrder bubbles)
  have hnil := List.nil_notMem_splitBy d.linked (sortOn mergeOrder bubbles)
  rw [← mergeGroups, hsplit] at hbreaks hnil
  rcases after with _ | ⟨next, rest⟩
  · exact absurd rfl hafter
  have hlinked := (List.isChain_cons_cons.mp (List.isChain_append.mp hbreaks).2.1).1
  obtain ⟨hne, hnext, hlinked⟩ := hlinked
  obtain ⟨y, tail, rfl⟩ := List.exists_cons_of_ne_nil hnext
  obtain ⟨init, x, rfl⟩ : ∃ init x, group = init ++ [x] :=
    ⟨group.dropLast, group.getLast hne, (List.dropLast_append_getLast hne).symm⟩
  rw [List.getLast_append_singleton, List.head_cons] at hlinked
  rw [List.flatten_cons, List.cons_append] at hsorted
  have hlast : ∀ z ∈ init ++ [x], mergeOrder z ≤ mergeOrder x := by
    intro z hz
    rcases List.mem_append.mp hz with hz | hz
    · exact (List.pairwise_append.mp hgroup).2.2 z hz x (List.mem_singleton_self x)
    · rw [List.mem_singleton.mp hz]
  have hfirst : ∀ z ∈ ((y :: tail) :: rest).flatten, mergeOrder y ≤ mergeOrder z := by
    intro z hz
    rcases List.mem_cons.mp hz with rfl | hz
    · exact le_rfl
    · exact (List.pairwise_cons.mp hsorted).1 z hz
  have hx : x ∈ init ++ [x] := List.mem_append_right _ (List.mem_singleton_self x)
  refine ⟨x, hx, y, List.mem_cons_self, ?_, hlinked, fun z hz => ?_, hlast, hfirst⟩
  · rw [List.getLast?_append, List.getLast?_singleton]
    rfl
  · have hmem := (mem_sortOn mergeOrder).mpr hz
    rw [← flatten_mergeGroups (d := d), hsplit, List.flatten_append, List.flatten_cons] at hmem
    rcases List.mem_append.mp hmem with hmem | hmem
    · exact .inl (hbefore z hmem x hx)
    · exact (List.mem_append.mp hmem).imp (hlast z) (hfirst z)

/-- A bubble between two enabled ones of its side is enabled where nothing lies between them. -/
lemma enabled_of_between (hall : AreUnmerged d.grid bubbles) (ha : a ∈ bubbles) (hb : b ∈ bubbles)
    (hea : d.config.merge.enabled a.tier) (heb : d.config.merge.enabled b.tier)
    (hside : SameSide a b) (hnothing : NothingBetween d bubbles a b) (hx : x ∈ bubbles)
    (hax : mergeOrder a ≤ mergeOrder x) (hxb : mergeOrder x ≤ mergeOrder b) :
    d.config.merge.enabled x.tier := by
  have hsx := sameSide_of_between hside hax hxb
  by_contra hdisabled
  rw [Bool.not_eq_true] at hdisabled
  refine (hnothing x hx hsx hdisabled).1 ⟨?_, ?_⟩
  · refine (priceKey_le hsx hax).lt_of_ne fun heq => ?_
    rw [← hall.eq_of_priceKey ha hx hsx heq, hea] at hdisabled
    cases hdisabled
  · refine (priceKey_le (hsx.symm.trans hside) hxb).lt_of_ne fun heq => ?_
    rw [hall.eq_of_priceKey hx hb (hsx.symm.trans hside) heq, heb] at hdisabled
    cases hdisabled

/-- **Bubbles of different groups are not connected**, unless something lies between them. -/
theorem apart_of_groups (hgrid : d.grid.Valid) (hall : AreUnmerged d.grid bubbles)
    (hsplit : d.mergeGroups bubbles = before ++ group :: after) (ha : a ∈ group)
    (hb : b ∈ after.flatten) (hea : d.config.merge.enabled a.tier)
    (heb : d.config.merge.enabled b.tier) (hside : SameSide a b)
    (hnothing : NothingBetween d bubbles a b) : ¬ Relation.ReflTransGen (Near d bubbles) a b := by
  intro hpath
  obtain ⟨x, hx, y, hy, -, hlinked, hcases, hlast, hfirst⟩ :=
    exists_boundary hsplit (List.ne_nil_of_mem hb)
  have hgroup : group ∈ d.mergeGroups bubbles := hsplit ▸ List.mem_append_right _ List.mem_cons_self
  have hma := mem_bubbles hgroup ha
  have hmb := mem_bubbles_after hsplit hb
  have hmy := mem_bubbles_after hsplit hy
  have hmx := mem_bubbles hgroup hx
  have hxy : mergeOrder x ≤ mergeOrder y := (mergeOrder_le_of_groups hsplit).2.1 x hx y hy
  have hax := hlast a ha
  have hyb := hfirst b hb
  have hex := enabled_of_between hall hma hmb hea heb hside hnothing hmx hax (hxy.trans hyb)
  have hey := enabled_of_between hall hma hmb hea heb hside hnothing hmy (hax.trans hxy) hyb
  have hsx := sameSide_of_between hside hax (hxy.trans hyb)
  have hsy := sameSide_of_between hside (hax.trans hxy) hyb
  have hfar : d.config.merge.maxDistanceBuckets < (d.bucketOf x - d.bucketOf y).natAbs := by
    by_contra hnear
    rw [linked_iff.mpr ⟨hex, hey, hsx.symm.trans hsy, not_lt.mp hnear⟩] at hlinked
    cases hlinked
  have hbucket {p q : OrderFlowBubble} (hp : p ∈ bubbles) (hq : q ∈ bubbles) (hpq : SameSide p q)
      (hle : mergeOrder p ≤ mergeOrder q) : d.bucketOf p ≤ d.bucketOf q :=
    bucketOf_le hgrid (hall.each p hp) (hall.each q hq) (priceKey_le hpq hle)
  -- A chain that starts at `a` stays on the side of `x`.
  have hstays : b ∈ bubbles ∧ SameSide a b ∧ mergeOrder b ≤ mergeOrder x := by
    clear hb hmb heb hside hnothing hyb
    induction hpath with
    | refl => exact ⟨hma, ⟨rfl, rfl⟩, hax⟩
    | tail _ hnear ih =>
      obtain ⟨hmz, hsz, hzx⟩ := ih
      obtain ⟨hmw, -, hzw, hdistance⟩ := hnear
      have hsw := hsz.trans hzw
      refine ⟨hmw, hsw, (hcases _ hmw).resolve_right fun hyw => ?_⟩
      have h1 := hbucket hmz hmx (hsz.symm.trans hsx) hzx
      have h2 := hbucket hmy hmw (hsy.symm.trans hsw) hyw
      have h3 := hbucket hmx hmy (hsx.symm.trans hsy) hxy
      omega
  have h1 := hbucket hmy hmb (hsy.symm.trans hside) hyb
  have h2 := hbucket hmb hmx (hside.symm.trans hsx) hstays.2.2
  have h3 := hbucket hmx hmy (hsx.symm.trans hsy) hxy
  omega

/-! ## Without the disabled bubbles -/

/-- A group has enabled bubbles only. -/
def AllEnabled (d : BubbleDetector) (group : List OrderFlowBubble) : Bool :=
  group.all fun b => d.config.merge.enabled b.tier

/-- No bubble after a group is linked to its last one, where nothing lies between linked ones. -/
lemma not_linked_later (hgrid : d.grid.Valid) (hall : AreUnmerged d.grid bubbles)
    (hsplit : d.mergeGroups bubbles = before ++ group :: after) (hx : x ∈ group.getLast?)
    (hmx : x ∈ bubbles) (hb : b ∈ after.flatten)
    (hnothing : d.linked x b = true → NothingBetween d bubbles x b) : d.linked x b = false := by
  obtain ⟨x', hx', y, hy, hlast, hlinked, -, -, hfirst⟩ :=
    exists_boundary hsplit (List.ne_nil_of_mem hb)
  obtain rfl := Option.some.inj (hlast.symm.trans hx)
  rw [← Bool.not_eq_true]
  intro htrue
  obtain ⟨hex, heb, hside, hdistance⟩ := linked_iff.mp htrue
  have hmb := mem_bubbles_after hsplit hb
  have hmy := mem_bubbles_after hsplit hy
  have hxy : mergeOrder x' ≤ mergeOrder y := (mergeOrder_le_of_groups hsplit).2.1 x' hx' y hy
  have hyb := hfirst b hb
  have hey := enabled_of_between hall hmx hmb hex heb hside (hnothing htrue) hmy hxy hyb
  have hsy := sameSide_of_between hside hxy hyb
  have h1 := bucketOf_le hgrid (hall.each _ hmx) (hall.each _ hmy) (priceKey_le hsy hxy)
  have h2 := bucketOf_le hgrid (hall.each _ hmy) (hall.each _ hmb)
    (priceKey_le (hsy.symm.trans hside) hyb)
  rw [linked_iff.mpr ⟨hex, hey, hsy, by omega⟩] at hlinked
  cases hlinked

lemma filter_group (hchain : group.IsChain fun a b => d.linked a b) :
    group.filter (fun b => d.config.merge.enabled b.tier) = if AllEnabled d group then group else [] := by
  split_ifs with hall
  · exact List.filter_eq_self.mpr (List.all_eq_true.mp hall)
  · obtain ⟨x, hx, hdisabled⟩ : ∃ x ∈ group, d.config.merge.enabled x.tier = false := by
      simpa [AllEnabled] using hall
    rcases enabled_of_isChain hchain x hx with rfl | henabled
    · simp [hdisabled]
    · cases hdisabled.symm.trans henabled

/-- No bubble of a disabled tier lies between two enabled ones of its side that are near enough to be
merged. -/
def Clear (d : BubbleDetector) (bubbles : List OrderFlowBubble) : Prop :=
  ∀ a ∈ bubbles, ∀ b ∈ bubbles, d.linked a b = true → NothingBetween d bubbles a b

/-- **The groups without the disabled bubbles** are the groups of enabled ones, where nothing lies
between two near ones. -/
theorem mergeGroups_filter (hgrid : d.grid.Valid) (hall : AreUnmerged d.grid bubbles)
    (hclear : Clear d bubbles) :
    d.mergeGroups (bubbles.filter fun b => d.config.merge.enabled b.tier) =
      (d.mergeGroups bubbles).filter (AllEnabled d) := by
  unfold mergeGroups
  rw [← filter_sortOn, List.splitBy_eq_iff, ← mergeGroups]
  have hchain : ∀ group ∈ d.mergeGroups bubbles, group.IsChain fun a b => d.linked a b :=
    fun group hgroup => List.isChain_of_mem_splitBy hgroup
  have hnil : [] ∉ d.mergeGroups bubbles := List.nil_notMem_splitBy _ _
  refine ⟨?_, fun hmem => hnil (List.mem_of_mem_filter hmem),
    fun group hgroup => hchain group (List.mem_of_mem_filter hgroup), ?_⟩
  · rw [← flatten_mergeGroups (d := d), List.filter_flatten]
    generalize d.mergeGroups bubbles = groups at hchain
    clear hnil
    induction groups with
    | nil => rfl
    | cons group groups ih =>
      rw [List.forall_mem_cons] at hchain
      rw [List.map_cons, List.flatten_cons, List.filter_cons, filter_group hchain.1, ih hchain.2]
      split_ifs
      · rfl
      · rfl
  · refine List.Pairwise.isChain ?_
    have hsuffix : ∀ before groups, d.mergeGroups bubbles = before ++ groups →
        (groups.filter (AllEnabled d)).Pairwise fun a b =>
          ∃ ha hb, d.linked (a.getLast ha) (b.head hb) = false := by
      intro before groups hsplit
      induction groups generalizing before with
      | nil => exact .nil
      | cons group groups ih =>
        have hrest := ih (before ++ [group]) (by rw [hsplit, List.append_assoc]; rfl)
        rw [List.filter_cons]
        split_ifs
        · refine List.pairwise_cons.mpr ⟨fun later hlater => ?_, hrest⟩
          have hlater := List.mem_of_mem_filter hlater
          have hgroup : group ∈ d.mergeGroups bubbles :=
            hsplit ▸ List.mem_append_right _ List.mem_cons_self
          have hmem : later ∈ d.mergeGroups bubbles :=
            hsplit ▸ List.mem_append_right _ (List.mem_cons_of_mem _ hlater)
          have hne : group ≠ [] := fun heq => hnil (heq ▸ hgroup)
          have hne' : later ≠ [] := fun heq => hnil (heq ▸ hmem)
          have hmx := mem_bubbles hgroup (List.getLast_mem hne)
          refine ⟨hne, hne', not_linked_later hgrid hall hsplit (List.getLast?_eq_some_getLast hne)
            hmx (List.mem_flatten.mpr ⟨later, hlater, List.head_mem hne'⟩) ?_⟩
          exact hclear _ hmx _ (mem_bubbles hmem (List.head_mem hne'))
        · exact hrest
    exact hsuffix [] _ rfl

/-- A group of enabled bubbles becomes an enabled one, and no other does. -/
lemma Emits.enabled_iff (h : d.Emits group b) (hgroup : ∀ x ∈ group, IsUnmerged d.grid x)
    (hchain : group.IsChain fun a b => d.linked a b) :
    AllEnabled d group = d.config.merge.enabled b.tier := by
  obtain ⟨x, hx, htier⟩ := List.mem_map.mp (h.mergedFrom hgroup hchain).tier.1
  rw [← htier]
  rcases enabled_of_isChain hchain x hx with rfl | henabled
  · simp [AllEnabled]
  · rw [henabled]
    refine List.all_eq_true.mpr fun y hy => ?_
    rcases enabled_of_isChain hchain y hy with rfl | henabled'
    · rw [← List.mem_singleton.mp hx]
      exact henabled
    · exact henabled'

/-- What the groups of enabled bubbles become are the enabled bubbles put out. -/
lemma emits_filter {groups : List (List OrderFlowBubble)} {out : List OrderFlowBubble}
    (hemits : List.Forall₂ (fun group b => d.Emits group b ∧
      AllEnabled d group = d.config.merge.enabled b.tier) groups out) :
    List.Forall₂ d.Emits (groups.filter (AllEnabled d))
      (out.filter fun b => d.config.merge.enabled b.tier) := by
  induction hemits with
  | nil => exact .nil
  | cons hb _ ih =>
    rw [List.filter_cons, List.filter_cons, hb.2]
    split_ifs
    · exact .cons hb.1 ih
    · exact ih

/-! ## What is merged -/

lemma forall₂_emits (hgrid : d.grid.Valid) (hall : AreUnmerged d.grid bubbles)
    {out : List OrderFlowBubble} (h : d.merge bubbles = .ok out) : List.Forall₂ (fun group b => d.Emits group b ∧
      MergedFrom group b ∧ AllEnabled d group = d.config.merge.enabled b.tier)
      (d.mergeGroups bubbles) out := by
  have hsorted := (mergeSorted_eq_ok hgrid fun x hx => hall.each x ((mem_sortOn _).mp hx)).mp h
  have hmem := (List.forall₂_and_left _ _).mpr ⟨fun _ hgroup => hgroup, hsorted⟩
  refine hmem.imp fun group b hb => ?_
  obtain ⟨hgroup, hemits⟩ := hb
  have heach : ∀ x ∈ group, IsUnmerged d.grid x := fun x hx => hall.each x (mem_bubbles hgroup hx)
  have hchain : group.IsChain fun a b => d.linked a b := List.isChain_of_mem_splitBy hgroup
  exact ⟨hemits, hemits.mergedFrom heach hchain, hemits.enabled_iff heach hchain⟩

/-- **Which bubbles are merged**, for the bubbles of any candle and any merge configuration: two of
enabled tiers, of one segment and direction, go into the same merged bubble iff a chain of near enabled
bubbles connects them and no bubble of a disabled tier lies between them. Where none lies between two
enabled ones near enough to be merged, the merge without the disabled bubbles returns the same enabled
ones. -/
theorem merge_groups (hgrid : d.grid.Valid) (hall : AreUnmerged d.grid bubbles)
    {out : List OrderFlowBubble} (h : d.merge bubbles = .ok out) :
    (d.mergeGroups bubbles).flatten.Perm bubbles ∧ List.Forall₂ MergedFrom (d.mergeGroups bubbles) out ∧
    (∀ a ∈ bubbles, ∀ b ∈ bubbles, d.config.merge.enabled a.tier →
      d.config.merge.enabled b.tier → SameSide a b →
      ((∃ group ∈ d.mergeGroups bubbles, a ∈ group ∧ b ∈ group) ↔
        Relation.ReflTransGen (Near d bubbles) a b ∧ NothingBetween d bubbles a b)) ∧
    (Clear d bubbles → d.merge (bubbles.filter fun b => d.config.merge.enabled b.tier) =
      .ok (out.filter fun b => d.config.merge.enabled b.tier)) := by
  have hemits := forall₂_emits hgrid hall h
  refine ⟨flatten_mergeGroups (d := d) ▸ perm_sortOn _ _, hemits.imp fun _ _ h => h.2.1, ?_, ?_⟩
  · intro a ha b hb hea heb hside
    constructor
    · rintro ⟨group, hgroup, hag, hbg⟩
      exact together_of_mem_group hgroup hag hbg
    · rintro ⟨hpath, hnothing⟩
      have hexists {p : OrderFlowBubble} (hp : p ∈ bubbles) : ∃ group ∈ d.mergeGroups bubbles, p ∈ group :=
        List.mem_flatten.mp (flatten_mergeGroups (d := d) ▸ (mem_sortOn mergeOrder).mpr hp)
      obtain ⟨group, hgroup, hag⟩ := hexists ha
      obtain ⟨before, after, hsplit⟩ := List.append_of_mem hgroup
      have hbmem : b ∈ before.flatten ++ (group ++ after.flatten) := by
        rw [← List.flatten_cons, ← List.flatten_append, ← hsplit, flatten_mergeGroups]
        exact (mem_sortOn mergeOrder).mpr hb
      rcases List.mem_append.mp hbmem with hbefore | hbmem
      · -- The group of `b` comes first: the chain is taken the other way round.
        obtain ⟨group', hgroup', hbg⟩ := List.mem_flatten.mp hbefore
        obtain ⟨before', between, rfl⟩ := List.append_of_mem hgroup'
        have hsplit' : d.mergeGroups bubbles = before' ++ group' :: (between ++ group :: after) := by
          rw [hsplit, List.append_assoc, List.cons_append]
        have hag' : a ∈ (between ++ group :: after).flatten :=
          List.mem_flatten.mpr ⟨group, List.mem_append_right _ List.mem_cons_self, hag⟩
        refine absurd (reverse_connected ha hea hpath) ?_
        exact apart_of_groups hgrid hall hsplit' hbg hag' heb hea hside.symm (hnothing.symm hside)
      · rcases List.mem_append.mp hbmem with hbg | hafter
        · exact ⟨group, hgroup, hag, hbg⟩
        · exact absurd hpath (apart_of_groups hgrid hall hsplit hag hafter hea heb hside hnothing)
  · intro hclear
    refine (mergeSorted_eq_ok hgrid fun x hx => ?_).mpr ?_
    · exact hall.each x (List.mem_of_mem_filter ((mem_sortOn mergeOrder).mp hx))
    · rw [← mergeGroups, mergeGroups_filter hgrid hall hclear]
      exact emits_filter (hemits.imp fun _ _ h => ⟨h.1, h.2.2⟩)

/-- The bubbles at 20 and 22 are near enough to be merged; 25 is of a disabled tier, 30 is far away. -/
def spacedCandle : CandleFlow :=
  exampleCandle [exampleLevel 20 12, exampleLevel 22 12, exampleLevel 25 6, exampleLevel 30 12]

def spacedBubbles : List OrderFlowBubble :=
  (chainDetector.unmerged spacedCandle .final).toOption.getD []

/-- Near bubbles are connected; the disabled bubble at 25 can go. -/
theorem merge_groups_example :
    (∀ a ∈ spacedBubbles, ∀ b ∈ spacedBubbles, priceKey a = 20 → priceKey b = 22 →
      Relation.ReflTransGen (Near chainDetector spacedBubbles) a b) ∧
    (∀ a ∈ spacedBubbles, ∀ b ∈ spacedBubbles, priceKey a = 22 → priceKey b = 30 →
      ¬ (Relation.ReflTransGen (Near chainDetector spacedBubbles) a b ∧
        NothingBetween chainDetector spacedBubbles a b)) ∧
    ∃ out, chainDetector.merge spacedBubbles = .ok out ∧ out.map (·.mergedCount) = [2, 1, 1] ∧
      chainDetector.merge (spacedBubbles.filter fun b => chainDetector.config.merge.enabled b.tier) =
        .ok (out.filter fun b => chainDetector.config.merge.enabled b.tier) := by
  have hunmerged : chainDetector.unmerged spacedCandle .final = .ok spacedBubbles := by decide +kernel
  have hcounts : (·.map (·.mergedCount)) <$> chainDetector.merge spacedBubbles = .ok [2, 1, 1] := by
    decide +kernel
  obtain ⟨out, hout⟩ : ∃ out, chainDetector.merge spacedBubbles = .ok out := by
    rcases h : chainDetector.merge spacedBubbles with e | out
    · rw [h] at hcounts
      cases hcounts
    · exact ⟨out, rfl⟩
  obtain ⟨-, -, hiff, hremove⟩ := merge_groups (by decide) (areUnmerged (by decide) hunmerged) hout
  have hpair : ∀ a ∈ spacedBubbles, ∀ b ∈ spacedBubbles, priceKey a = 20 → priceKey b = 22 →
      (chainDetector.config.merge.enabled a.tier ∧ chainDetector.config.merge.enabled b.tier ∧
        a.segment = b.segment ∧ a.direction = b.direction) ∧
      ∃ group ∈ chainDetector.mergeGroups spacedBubbles, a ∈ group ∧ b ∈ group := by decide +kernel
  have hapart : ∀ a ∈ spacedBubbles, ∀ b ∈ spacedBubbles, priceKey a = 22 → priceKey b = 30 →
      (chainDetector.config.merge.enabled a.tier ∧ chainDetector.config.merge.enabled b.tier ∧
        a.segment = b.segment ∧ a.direction = b.direction) ∧
      ¬ ∃ group ∈ chainDetector.mergeGroups spacedBubbles, a ∈ group ∧ b ∈ group := by decide +kernel
  have hclear : ∀ a ∈ spacedBubbles, ∀ b ∈ spacedBubbles, chainDetector.linked a b = true →
      ∀ x ∈ spacedBubbles, chainDetector.config.merge.enabled x.tier = false →
      ¬ (priceKey a < priceKey x ∧ priceKey x < priceKey b) ∧
        ¬ (priceKey b < priceKey x ∧ priceKey x < priceKey a) := by decide +kernel
  refine ⟨fun a ha b hb h20 h22 => ?_, fun a ha b hb h22 h30 => ?_, out, hout, ?_, ?_⟩
  · obtain ⟨⟨hea, heb, hside⟩, htogether⟩ := hpair a ha b hb h20 h22
    exact ((hiff a ha b hb hea heb hside).mp htogether).1
  · obtain ⟨⟨hea, heb, hside⟩, hapart⟩ := hapart a ha b hb h22 h30
    exact fun hconnected => hapart ((hiff a ha b hb hea heb hside).mpr hconnected)
  · rw [hout] at hcounts
    exact Except.ok.inj hcounts
  · exact hremove fun a ha b hb hlinked x hx _ hdisabled => hclear a ha b hb hlinked x hx hdisabled

/-- **A disabled bubble splits a chain**: the bubbles at 20 and 22 are merged, and no longer are with
a bubble of a disabled tier at 21. -/
theorem disabled_bubble_splits :
    (·.map (·.mergedCount)) <$> (chainDetector.unmerged chainCandle .final >>= chainDetector.merge) =
      .ok [2] ∧
    (·.map (·.mergedCount)) <$> (chainDetector.unmerged
      (exampleCandle [exampleLevel 20 12, exampleLevel 21 6, exampleLevel 22 12]) .final >>=
        chainDetector.merge) = .ok [1, 1, 1] := by
  decide +kernel

end Marketfeed.BubbleDetector

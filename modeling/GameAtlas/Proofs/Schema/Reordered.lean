import Mathlib.Tactic
import GameAtlas.Proofs.Schema.Alike

/-!
Descriptions whose keys are put in another order. A key that is spelled once means the same wherever
it stands, and of an unknown one nothing is taken; so only the order of the issues changes.
-/

namespace GameAtlas.Schema

open Yaml (Node)

theorem Key.canonical_eq_of_unknown {s : String} (h : ofText? (canonical s) = none) :
    canonical s = s := by
  unfold canonical at h ⊢
  split at h
  · rw [ofText?_text] at h
    cases h
  · rfl

/-! ### Views in another order -/

namespace View

variable {α β γ : Type}

/-- What pairs give one by one, each knowing whether its canonical key was there before. -/
def gather (give : Bool → String × α → List γ) (seen : List String) :
    List (String × α) → List γ
  | [] => []
  | p :: rest =>
    give (decide (Key.canonical p.1 ∈ seen)) p ++ gather give (Key.canonical p.1 :: seen) rest

/-- The pair that a view has of one of its origin. -/
def kept (there : Bool) (p : String × α) : Keyed String α :=
  if there then [] else [(Key.canonical p.1, p.2)]

/-- What is said of the spelling of a pair, if no known key is there before. -/
def said (there : Bool) (p : String × α) : List Issue :=
  if there then [duplicate p.1]
  else if Key.canonical p.1 = p.1 then [] else [respelled p.1 (Key.canonical p.1)]

variable {give : Bool → String × α → List γ} {seen seen' : List String}
  {ps qs : List (String × α)} {v : View α}

/-- What was seen counts, not in which order. -/
theorem gather_congr (h : ∀ s, s ∈ seen ↔ s ∈ seen') :
    gather give seen ps = gather give seen' ps := by
  induction ps generalizing seen seen' with
  | nil => rfl
  | cons p rest ih =>
    have hrest : gather give (Key.canonical p.1 :: seen) rest =
        gather give (Key.canonical p.1 :: seen') rest :=
      ih fun s => by rw [List.mem_cons, List.mem_cons, h]
    rw [gather, gather, hrest, decide_eq_decide.mpr (h (Key.canonical p.1))]

/-- If pairs of one key are equal, their order does not matter. -/
theorem gather_perm (hperm : ps.Perm qs)
    (hsame : ∀ p ∈ ps, ∀ q ∈ ps, Key.canonical p.1 = Key.canonical q.1 → p = q)
    (seen : List String) : (gather give seen ps).Perm (gather give seen qs) := by
  induction hperm generalizing seen with
  | nil => exact .refl _
  | cons p _ ih =>
    rw [gather, gather]
    exact (ih (fun q hq r hr => hsame q (.tail _ hq) r (.tail _ hr)) _).append_left _
  | swap p q rest =>
    by_cases hkey : Key.canonical q.1 = Key.canonical p.1
    · rw [hsame q List.mem_cons_self p (.tail _ List.mem_cons_self) hkey]
    · have hrest : gather give (Key.canonical p.1 :: Key.canonical q.1 :: seen) rest =
          gather give (Key.canonical q.1 :: Key.canonical p.1 :: seen) rest :=
        gather_congr fun s => by simp only [List.mem_cons, or_left_comm]
      have hkey' : Key.canonical p.1 ≠ Key.canonical q.1 := Ne.symm hkey
      simp only [gather, List.mem_cons, hkey, hkey', false_or, hrest, ← List.append_assoc]
      exact List.perm_append_comm.append_right _
  | trans hfirst _ ih ih' =>
    refine (ih hsame seen).trans (ih' (fun p hp q hq => ?_) seen)
    exact hsame p (hfirst.mem_iff.mpr hp) q (hfirst.mem_iff.mpr hq)

/-- A view on the way: these are its keys, and only known ones were spelled in an older way. -/
structure Collected (v : View α) (seen : List String) : Prop where
  keys : ∀ s, s ∈ v.pairs.map Prod.fst ↔ s ∈ seen
  renamed : ∀ s ∈ v.renamed.map Prod.fst, (Key.ofText? s).isSome

theorem Collected.put (h : Collected v seen) {key : String} (hnew : key ∉ seen) (value : α) :
    Keyed.get? key v.pairs = none ∧ Keyed.put key value v.pairs = v.pairs ++ [(key, value)] ∧
      ∀ s, s ∈ (Keyed.put key value v.pairs).map Prod.fst ↔ s ∈ key :: seen := by
  have habsent : key ∉ v.pairs.map Prod.fst := mt (h.keys key).mp hnew
  refine ⟨Keyed.get?_eq_none_iff.mpr habsent, Keyed.put_of_new habsent, fun s => ?_⟩
  rw [Keyed.mem_keys_put, List.mem_cons, h.keys]

/-- Of a pair whose key is unknown and there before, a view says that it is one too many. -/
theorem Collected.add_again (h : Collected v seen) {p : String × α}
    (hunknown : Key.ofText? (Key.canonical p.1) = none) (hseen : Key.canonical p.1 ∈ seen) :
    v.add p.1 p.2 = v.note (duplicate p.1) := by
  have hself := Key.canonical_eq_of_unknown hunknown
  have hrenamed : Keyed.get? p.1 v.renamed = none := by
    refine Keyed.get?_eq_none_iff.mpr fun hmem => ?_
    have hknown := h.renamed p.1 hmem
    rw [← hself, hunknown] at hknown
    cases hknown
  obtain ⟨old, hold⟩ : ∃ old, Keyed.get? p.1 v.pairs = some old := by
    refine Option.ne_none_iff_exists'.mp fun hnone => Keyed.get?_eq_none_iff.mp hnone ?_
    rwa [h.keys, ← hself]
  rw [View.add, if_pos hself, hold, hrenamed]

/-- A pair of a new key stays in the view, with an issue if the key is spelled in an older way. -/
theorem Collected.add_new (h : Collected v seen) {p : String × α}
    (hnew : Key.canonical p.1 ∉ seen) :
    Collected (v.add p.1 p.2) (Key.canonical p.1 :: seen) ∧
      (v.add p.1 p.2).pairs = v.pairs ++ [(Key.canonical p.1, p.2)] ∧
      (v.add p.1 p.2).issues = v.issues ++
        if Key.canonical p.1 = p.1 then [] else [respelled p.1 (Key.canonical p.1)] := by
  obtain ⟨hget, hput, hkeys⟩ := h.put hnew p.2
  by_cases hself : Key.canonical p.1 = p.1
  · rw [hself] at hget hput hkeys
    have hadd : v.add p.1 p.2 = { v with pairs := Keyed.put p.1 p.2 v.pairs } := by
      rw [View.add, if_pos hself, hget]
    rw [hadd, if_pos hself, hself]
    exact ⟨⟨hkeys, h.renamed⟩, hput, (List.append_nil _).symm⟩
  · have hadd : v.add p.1 p.2 =
        { v with
          pairs := Keyed.put (Key.canonical p.1) p.2 v.pairs
          renamed := Keyed.put (Key.canonical p.1) p.1 v.renamed
          issues := v.issues ++ [respelled p.1 (Key.canonical p.1)] } := by
      rw [View.add, if_neg hself, Keyed.has, hget, Option.isSome_none, if_neg Bool.false_ne_true]
    rw [hadd, if_neg hself]
    refine ⟨⟨hkeys, fun s hs => ?_⟩, hput, rfl⟩
    rcases Keyed.mem_keys_put.mp hs with rfl | hs
    · rw [Option.isSome_iff_ne_none]
      exact mt Key.canonical_eq_of_unknown hself
    · exact h.renamed s hs

/-- Of a pair whose key is not known to be there, a view takes the pair or says that it is one too
many, as it is the first of its key or not. -/
theorem Collected.add (h : Collected v seen) {p : String × α}
    (hnew : (Key.ofText? (Key.canonical p.1)).isSome → Key.canonical p.1 ∉ seen) :
    Collected (v.add p.1 p.2) (Key.canonical p.1 :: seen) ∧
      (v.add p.1 p.2).pairs = v.pairs ++ kept (decide (Key.canonical p.1 ∈ seen)) p ∧
      (v.add p.1 p.2).issues = v.issues ++ said (decide (Key.canonical p.1 ∈ seen)) p := by
  by_cases hseen : Key.canonical p.1 ∈ seen
  · have hunknown : Key.ofText? (Key.canonical p.1) = none := by
      rw [← Option.not_isSome_iff_eq_none]
      exact fun hknown => hnew hknown hseen
    rw [h.add_again hunknown hseen, decide_eq_true hseen]
    refine ⟨⟨fun s => ?_, h.renamed⟩, (List.append_nil _).symm, rfl⟩
    rw [List.mem_cons, or_iff_right_of_imp fun hs => hs ▸ hseen]
    exact h.keys s
  · rw [decide_eq_false hseen]
    exact h.add_new hseen

/-- The known keys of pairs, as often as they are spelled. -/
def knownKeys (ps : List (String × α)) : List Key :=
  ps.filterMap fun p => Key.ofText? (Key.canonical p.1)

theorem mem_knownKeys {k : Key} :
    k ∈ knownKeys ps ↔ ∃ p ∈ ps, Key.ofText? (Key.canonical p.1) = some k :=
  List.mem_filterMap

/-- Behind a known key that is spelled once, it is not spelled again. -/
theorem nodup_knownKeys_cons {p : String × α} (h : (knownKeys (p :: ps)).Nodup) :
    (knownKeys ps).Nodup ∧ ∀ k ∈ knownKeys ps, k.text ≠ Key.canonical p.1 := by
  rw [knownKeys, List.filterMap_cons] at h
  split at h
  · next hunknown =>
    refine ⟨h, fun k _ htext => ?_⟩
    rw [← htext, Key.ofText?_text] at hunknown
    cases hunknown
  · next l hknown =>
    obtain ⟨hfresh, hrest⟩ := List.nodup_cons.mp h
    refine ⟨hrest, fun k hk htext => ?_⟩
    rw [← htext, Key.ofText?_text] at hknown
    cases hknown
    exact hfresh hk

theorem Collected.addAll (h : Collected v seen) (honce : (knownKeys ps).Nodup)
    (hnew : ∀ k ∈ knownKeys ps, k.text ∉ seen) :
    (ps.foldl (fun v p => v.add p.1 p.2) v).pairs = v.pairs ++ gather kept seen ps ∧
      (ps.foldl (fun v p => v.add p.1 p.2) v).issues = v.issues ++ gather said seen ps := by
  induction ps generalizing v seen with
  | nil => exact ⟨(List.append_nil _).symm, (List.append_nil _).symm⟩
  | cons p rest ih =>
    obtain ⟨hrest, hfresh⟩ := nodup_knownKeys_cons honce
    obtain ⟨h', hpairs, hissues⟩ := h.add (p := p) fun hknown => by
      obtain ⟨k, hk⟩ := Option.isSome_iff_exists.mp hknown
      rw [← Key.text_of_ofText? hk]
      exact hnew k (mem_knownKeys.mpr ⟨p, List.mem_cons_self, hk⟩)
    obtain ⟨hpairs', hissues'⟩ := ih h' hrest fun k hk => by
      obtain ⟨q, hq, hqk⟩ := mem_knownKeys.mp hk
      rw [List.mem_cons, not_or]
      exact ⟨hfresh k hk, hnew k (mem_knownKeys.mpr ⟨q, .tail _ hq, hqk⟩)⟩
    rw [List.foldl_cons, hpairs', hissues', hpairs, hissues, List.append_assoc, List.append_assoc]
    exact ⟨rfl, rfl⟩

/-- The view of pairs, when no known key is spelled twice. -/
theorem ofPairs_gather (honce : (knownKeys ps).Nodup) :
    (ofPairs ps).pairs = gather kept [] ps ∧ (ofPairs ps).issues = gather said [] ps := by
  have hempty : Collected ({} : View α) [] := ⟨fun s => Iff.rfl, nofun⟩
  exact hempty.addAll honce fun _ _ => List.not_mem_nil

/-- A view of pairs in another order. -/
theorem ofPairs_perm (honce : (knownKeys ps).Nodup) (hperm : ps.Perm qs)
    (hsame : ∀ p ∈ ps, ∀ q ∈ ps, Key.canonical p.1 = Key.canonical q.1 → p = q) :
    (ofPairs ps).pairs.Perm (ofPairs qs).pairs ∧ (ofPairs ps).issues.Perm (ofPairs qs).issues := by
  have honce' : (knownKeys qs).Nodup := (hperm.filterMap _).nodup_iff.mp honce
  obtain ⟨hpairs, hissues⟩ := ofPairs_gather honce
  obtain ⟨hpairs', hissues'⟩ := ofPairs_gather honce'
  rw [hpairs, hissues, hpairs', hissues']
  exact ⟨gather_perm hperm hsame [], gather_perm hperm hsame []⟩

/-- Views of pairs with the same keys. What holds of the values under a key holds in the views. -/
theorem ofPairs_forall₂ {R : String → α → β → Prop} {bs : List (String × β)}
    (h : List.Forall₂ (fun p q => p.1 = q.1 ∧ R (Key.canonical p.1) p.2 q.2) ps bs) :
    List.Forall₂ (fun p q => p.1 = q.1 ∧ R p.1 p.2 q.2) (ofPairs ps).pairs (ofPairs bs).pairs ∧
      (ofPairs ps).issues = (ofPairs bs).issues := by
  -- One list of both values has both views.
  obtain ⟨zs, hps, hbs, hzs⟩ : ∃ zs : List (String × α × β),
      ps = zs.map (fun z => (z.1, z.2.1)) ∧ bs = zs.map (fun z => (z.1, z.2.2)) ∧
        ∀ z ∈ zs, R (Key.canonical z.1) z.2.1 z.2.2 := by
    induction h with
    | nil => exact ⟨[], rfl, rfl, nofun⟩
    | @cons p q ps bs hhead _ ih =>
      obtain ⟨zs, rfl, rfl, hzs⟩ := ih
      obtain ⟨key, a⟩ := p
      obtain ⟨key', b⟩ := q
      obtain ⟨hkey, hR⟩ := hhead
      dsimp only at hkey hR
      subst hkey
      exact ⟨(key, a, b) :: zs, rfl, rfl, List.forall_mem_cons.mpr ⟨hR, hzs⟩⟩
  have hfirst : ofPairs ps = (ofPairs zs).map fun _ z => z.1 := by
    rw [hps, ← ofPairs_map]
  have hsecond : ofPairs bs = (ofPairs zs).map fun _ z => z.2 := by
    rw [hbs, ← ofPairs_map]
  rw [hfirst, hsecond]
  refine ⟨List.forall₂_map_left_iff.mpr (List.forall₂_map_right_iff.mpr ?_), rfl⟩
  refine List.forall₂_same.mpr fun q hq => ⟨rfl, ?_⟩
  obtain ⟨z, hz, rfl⟩ := Field.mem_ofPairs hq
  exact hzs z hz

end View

/-! ### Alike nodes -/

namespace Part

theorem Alike.refl (part : Part) : part.Alike part := by
  cases part with
  | value n => exact .value n
  | members fields =>
    refine .members (.refl (fun fs => ?_) fields)
    exact List.forall₂_same.mpr fun f _ => .refl f
  | item field => exact .item (.refl Field.Alike.refl _)

theorem Alike.value_eq {n n' : Node} (h : (Part.value n).Alike (.value n')) : n = n' := by
  cases h
  rfl

end Part

namespace Field

variable {nodes nodes' : Keyed String Node} {tag : String} {pairs pairs' : List (Node × Node)}

section

variable [Host]

theorem get?_type_alike (h : List.Forall₂ PairsAlike nodes nodes') :
    Keyed.get? Key.type.text nodes = Keyed.get? Key.type.text nodes' := by
  induction h with
  | nil => rfl
  | @cons p q _ _ hhead _ ih =>
    obtain ⟨htext, hpart⟩ := hhead
    rw [Keyed.get?, Keyed.get?, ih, ← htext]
    split
    · next hkey =>
      rw [← htext, hkey] at hpart
      rw [(hpart rfl).value_eq]
    · rfl

theorem erase_alike (key : String) (h : List.Forall₂ PairsAlike nodes nodes') :
    List.Forall₂ PairsAlike (Keyed.erase key nodes) (Keyed.erase key nodes') := by
  induction h with
  | nil => exact .nil
  | @cons p q _ _ hhead _ ih =>
    rw [Keyed.erase, Keyed.erase, List.filter_cons, List.filter_cons, hhead.1]
    split
    · exact .cons hhead ih
    · exact ih

/-- Mappings describe alike fields if what stands under their keys does, with the key for the kind
or without it. -/
theorem ofNode_alike (tag : String) (flow : Bool) (share : Option Nat) {v w : View Node}
    (hv : View.ofPairs (pairs.map fun p => (p.1.keyText, p.2)) = v)
    (hw : View.ofPairs (pairs'.map fun p => (p.1.keyText, p.2)) = w)
    (htype : Keyed.get? Key.type.text v.pairs = Keyed.get? Key.type.text w.pairs)
    (hissues : v.issues.Perm w.issues)
    (hall : ∀ kind issues issues', issues.Perm issues' →
      Description.Alike (.ofKind kind v.pairs issues) (.ofKind kind w.pairs issues'))
    (hothers : ∀ kind issues issues', issues.Perm issues' →
      Description.Alike (.ofKind kind (Keyed.erase Key.type.text v.pairs) issues)
        (.ofKind kind (Keyed.erase Key.type.text w.pairs) issues')) :
    Description.Alike (.ofNode (.mapping tag pairs flow share))
      (.ofNode (.mapping tag pairs' flow share)) := by
  have hrefl (d : Description) : d.Alike d := .refl Field.Alike.refl _
  have hkeys : Description.keysOf (.mapping tag pairs flow share) = v := hv
  have hkeys' : Description.keysOf (.mapping tag pairs' flow share) = w := hw
  rw [Description.ofNode, Description.ofNode, Node.localTag?, Node.localTag?, Node.tag, Node.tag]
  cases Yaml.Tag.local? tag with
  | some name =>
    dsimp only
    rw [Description.ofTagged, Description.ofTagged, hkeys, hkeys']
    cases Kind.ofTag? name with
    | none => exact hrefl _
    | some kind => exact hall kind _ _ hissues
  | none =>
    dsimp only
    rw [Description.ofUntagged, Description.ofUntagged, hkeys, hkeys', htype]
    rw [if_pos (by rfl), if_pos (by rfl)]
    cases Keyed.get? Key.type.text w.pairs with
    | none => exact hrefl _
    | some n =>
      dsimp only
      cases Kind.ofTag? (Part.value n).scalarText with
      | none => exact hrefl _
      | some kind => exact hothers kind _ _ (hissues.append_right _)

/-- What stands under the keys of a mapping may be replaced by what is alike. -/
theorem ofNode_forall₂ (flow : Bool) (share : Option Nat)
    (h : List.Forall₂ (fun p q => p.1.keyText = q.1.keyText ∧
      PairsAlike (Key.canonical p.1.keyText, p.2) (Key.canonical p.1.keyText, q.2)) pairs pairs') :
    Description.Alike (.ofNode (.mapping tag pairs flow share))
      (.ofNode (.mapping tag pairs' flow share)) := by
  have hmapped : List.Forall₂ (fun (p q : String × Node) => p.1 = q.1 ∧
      PairsAlike (Key.canonical p.1, p.2) (Key.canonical p.1, q.2))
        (pairs.map fun p => (p.1.keyText, p.2)) (pairs'.map fun p => (p.1.keyText, p.2)) := by
    rw [List.forall₂_map_left_iff, List.forall₂_map_right_iff]
    exact h
  obtain ⟨hviews, hissues⟩ :=
    View.ofPairs_forall₂ (R := fun text n n' => PairsAlike (text, n) (text, n')) hmapped
  have halike : List.Forall₂ PairsAlike (View.ofPairs (pairs.map fun p => (p.1.keyText, p.2))).pairs
      (View.ofPairs (pairs'.map fun p => (p.1.keyText, p.2))).pairs := by
    refine hviews.imp fun p q hpq => ?_
    obtain ⟨text, n⟩ := p
    obtain ⟨text', n'⟩ := q
    obtain ⟨htext, hpart⟩ := hpq
    obtain rfl : text = text' := htext
    exact hpart
  exact ofNode_alike tag flow share rfl rfl (get?_type_alike halike) (hissues ▸ .refl _)
    (fun _ _ _ => alike_of_forall₂ halike) fun _ _ _ => alike_of_forall₂ (erase_alike _ halike)

/-- The pairs of a mapping may be put in another order if pairs of one key are equal, of which there
are none where the key is known. -/
theorem ofNode_perm (flow : Bool) (share : Option Nat) (hperm : pairs.Perm pairs')
    (honce : (View.knownKeys (pairs.map fun p => (p.1.keyText, p.2))).Nodup)
    (hsame : ∀ p ∈ pairs, ∀ q ∈ pairs, Key.canonical p.1.keyText = Key.canonical q.1.keyText →
      (p.1.keyText, p.2) = (q.1.keyText, q.2)) :
    Description.Alike (.ofNode (.mapping tag pairs flow share))
      (.ofNode (.mapping tag pairs' flow share)) := by
  have hmapped : ∀ p ∈ pairs.map (fun p => (p.1.keyText, p.2)),
      ∀ q ∈ pairs.map (fun p => (p.1.keyText, p.2)),
        Key.canonical p.1 = Key.canonical q.1 → p = q := by
    intro p hp q hq
    obtain ⟨p', hp', rfl⟩ := List.mem_map.mp hp
    obtain ⟨q', hq', rfl⟩ := List.mem_map.mp hq
    exact hsame p' hp' q' hq'
  obtain ⟨hpairs, hissues⟩ := View.ofPairs_perm honce (hperm.map _) hmapped
  have hdistinct := View.distinct_ofPairs (pairs.map fun p => (p.1.keyText, p.2))
  exact ofNode_alike tag flow share rfl rfl (Keyed.get?_perm hdistinct hpairs _) hissues
    (fun _ _ _ => alike_of_perm hdistinct hpairs) fun _ _ _ =>
      alike_of_perm (hdistinct.erase _) (hpairs.filter _)

end

/-! ### Mappings in another order -/

/-- A pair of a mapping with nothing under its key if it is unknown. -/
def blanked (p : Node × Node) : Node × Node :=
  if (Key.ofText? (Key.canonical p.1.keyText)).isSome then p else (p.1, .ofText "")

theorem blanked_key (p : Node × Node) : (blanked p).1 = p.1 := by
  rw [blanked]
  split <;> rfl

theorem blanked_alike [Host] (p : Node × Node) :
    PairsAlike (Key.canonical p.1.keyText, p.2) (Key.canonical p.1.keyText, (blanked p).2) ∧
      PairsAlike (Key.canonical p.1.keyText, (blanked p).2) (Key.canonical p.1.keyText, p.2) := by
  refine ⟨⟨rfl, fun hknown => ?_⟩, rfl, fun hknown => ?_⟩
  · rw [blanked, if_pos hknown]
    exact .refl _
  · rw [blanked, if_pos hknown]
    exact .refl _

end Field

/-- No known key is spelled twice. -/
def SpelledOnce (pairs : List (Node × Node)) : Prop :=
  (pairs.filterMap fun p => Key.ofText? (Key.canonical p.1.keyText)).Nodup

namespace Field

variable {tag : String} {pairs pairs' : List (Node × Node)}

theorem eq_of_key {p q : Node × Node} {k : Key} (honce : SpelledOnce pairs) (hp : p ∈ pairs)
    (hq : q ∈ pairs) (hpk : Key.ofText? (Key.canonical p.1.keyText) = some k)
    (hqk : Key.ofText? (Key.canonical q.1.keyText) = some k) : p = q := by
  have hapart := List.pairwise_filterMap.mp honce
  have hsymm : Std.Symm fun p q : Node × Node =>
      ∀ l, Key.ofText? (Key.canonical p.1.keyText) = some l →
        ∀ l', Key.ofText? (Key.canonical q.1.keyText) = some l' → l ≠ l' :=
    ⟨fun _ _ h l hl l' hl' => (h l' hl' l hl).symm⟩
  by_contra hne
  exact hapart.forall hp hq hne k hpk k hqk rfl

theorem knownKeys_blanked (pairs : List (Node × Node)) :
    View.knownKeys ((pairs.map blanked).map fun p => (p.1.keyText, p.2)) =
      pairs.filterMap fun p => Key.ofText? (Key.canonical p.1.keyText) := by
  rw [View.knownKeys, List.map_map, List.filterMap_map]
  simp only [Function.comp_def, blanked_key]

/-- Blanked pairs of one key are equal: there are no two of a known key, and nothing else stands
under an unknown one. -/
theorem blanked_same (honce : SpelledOnce pairs) {p q : Node × Node} (hp : p ∈ pairs)
    (hq : q ∈ pairs) (hkey : Key.canonical p.1.keyText = Key.canonical q.1.keyText) :
    ((blanked p).1.keyText, (blanked p).2) = ((blanked q).1.keyText, (blanked q).2) := by
  cases hknown : Key.ofText? (Key.canonical p.1.keyText) with
  | some k => rw [eq_of_key honce hp hq hknown (hkey ▸ hknown)]
  | none =>
    have hknown' : Key.ofText? (Key.canonical q.1.keyText) = none := hkey ▸ hknown
    have htext : p.1.keyText = q.1.keyText := by
      rw [← Key.canonical_eq_of_unknown hknown, hkey, Key.canonical_eq_of_unknown hknown']
    rw [blanked_key, blanked_key, htext, blanked, blanked, hknown, hknown']
    rfl

theorem ofNode_blanked [Host] (tag : String) (pairs : List (Node × Node)) (flow : Bool)
    (share : Option Nat) :
    Description.Alike (.ofNode (.mapping tag pairs flow share))
        (.ofNode (.mapping tag (pairs.map blanked) flow share)) ∧
      Description.Alike (.ofNode (.mapping tag (pairs.map blanked) flow share))
        (.ofNode (.mapping tag pairs flow share)) := by
  constructor
  · refine ofNode_forall₂ flow share (List.forall₂_map_right_iff.mpr (List.forall₂_same.mpr ?_))
    intro p _
    rw [blanked_key]
    exact ⟨rfl, (blanked_alike p).1⟩
  · refine ofNode_forall₂ flow share (List.forall₂_map_left_iff.mpr (List.forall₂_same.mpr ?_))
    intro p _
    rw [blanked_key]
    exact ⟨rfl, (blanked_alike p).2⟩

/-- The keys of a mapping may be put in another order. -/
theorem ofNode_spelledOnce [Host] (tag : String) (flow : Bool) (share : Option Nat)
    (honce : SpelledOnce pairs) (hperm : pairs.Perm pairs') :
    Description.Alike (.ofNode (.mapping tag pairs flow share))
      (.ofNode (.mapping tag pairs' flow share)) := by
  have hblanked : Description.Alike (.ofNode (.mapping tag (pairs.map blanked) flow share))
      (.ofNode (.mapping tag (pairs'.map blanked) flow share)) := by
    refine ofNode_perm flow share (hperm.map blanked) (knownKeys_blanked pairs ▸ honce) ?_
    intro p hp q hq hkey
    obtain ⟨p', hp', rfl⟩ := List.mem_map.mp hp
    obtain ⟨q', hq', rfl⟩ := List.mem_map.mp hq
    rw [blanked_key, blanked_key] at hkey
    exact blanked_same honce hp' hq' hkey
  exact ((ofNode_blanked tag pairs flow share).1.trans hblanked).trans
    (ofNode_blanked tag pairs' flow share).2

end Field

/-! ### Nodes in another order -/

/-- Nodes that differ in the order of keys: of a mapping that spells no known key twice, or of the
mappings that describe its item type and its members. The members keep their order. -/
inductive Reordered : Node → Node → Prop where
  | refl (n : Node) : Reordered n n
  | trans {n n' n'' : Node} : Reordered n n' → Reordered n' n'' → Reordered n n''
  | pairs {tag : String} {pairs pairs' : List (Node × Node)} {flow : Bool} {share : Option Nat} :
      SpelledOnce pairs → pairs.Perm pairs' →
      Reordered (.mapping tag pairs flow share) (.mapping tag pairs' flow share)
  | item {tag : String} {before after : List (Node × Node)} {k v v' : Node} {flow : Bool}
      {share : Option Nat} :
      Key.canonical k.keyText = Key.itemType.text → Reordered v v' →
      Reordered (.mapping tag (before ++ (k, v) :: after) flow share)
        (.mapping tag (before ++ (k, v') :: after) flow share)
  | namedMember {tag tag' : String} {before after first rest : List (Node × Node)}
      {k name m m' : Node} {flow flow' : Bool} {share share' : Option Nat} :
      Key.canonical k.keyText = Key.entries.text → Reordered m m' →
      Reordered
        (.mapping tag
          (before ++ (k, .mapping tag' (first ++ (name, m) :: rest) flow' share') :: after)
          flow share)
        (.mapping tag
          (before ++ (k, .mapping tag' (first ++ (name, m') :: rest) flow' share') :: after)
          flow share)
  | member {tag tag' : String} {before after : List (Node × Node)} {first rest : List Node}
      {k m m' : Node} {flow flow' : Bool} {share share' : Option Nat} :
      Key.canonical k.keyText = Key.entries.text → Reordered m m' →
      Reordered
        (.mapping tag (before ++ (k, .sequence tag' (first ++ m :: rest) flow' share') :: after)
          flow share)
        (.mapping tag (before ++ (k, .sequence tag' (first ++ m' :: rest) flow' share') :: after)
          flow share)

namespace Field

variable {n n' : Node} {f : Field}

theorem forall₂_middle {α : Type} {R : α → α → Prop} (hrefl : ∀ a, R a a) {a b : α}
    (first rest : List α) (h : R a b) :
    List.Forall₂ R (first ++ a :: rest) (first ++ b :: rest) := by
  have hsame (l : List α) : List.Forall₂ R l l := List.forall₂_same.mpr fun a _ => hrefl a
  exact List.rel_append (hsame first) (.cons h (hsame rest))

/-- One value of a mapping may be replaced by one that is alike. -/
theorem ofNode_middle [Host] (tag : String) (flow : Bool) (share : Option Nat)
    (before after : List (Node × Node)) {k v v' : Node} {text : String}
    (htext : Key.canonical k.keyText = text) (h : (partOf text v).Alike (partOf text v')) :
    Description.Alike (.ofNode (.mapping tag (before ++ (k, v) :: after) flow share))
      (.ofNode (.mapping tag (before ++ (k, v') :: after) flow share)) := by
  refine ofNode_forall₂ flow share (forall₂_middle (fun p => ⟨rfl, rfl, fun _ => .refl _⟩) before
    after ⟨rfl, rfl, fun _ => ?_⟩)
  rw [htext]
  exact h

theorem matches_named {c c' : Construction Field} (name : String)
    (h : Reading.Matches Alike (Reading.ofConstruction c) (Reading.ofConstruction c')) :
    Reading.Matches Alike (Reading.ofConstruction (named name <$> c))
      (Reading.ofConstruction (named name <$> c')) := by
  have hmap (c : Construction Field) : named name <$> c = c >>= fun f => .ok (f.named name) := by
    cases c <;> rfl
  rw [hmap, hmap, Reading.ofConstruction_bind, Reading.ofConstruction_bind]
  exact h.bind fun f g hfg => .ok (hfg.named name)

/-- Reordered nodes describe alike fields. The induction is on how they are reordered. -/
theorem reordered_alike [Host] (h : Reordered n n') :
    Description.Alike (.ofNode n) (.ofNode n') := by
  have hrefl (c : Construction Field) :
      Reading.Matches Alike (Reading.ofConstruction c) (Reading.ofConstruction c) :=
    .refl Alike.refl _
  induction h with
  | refl n => exact hrefl _
  | trans _ _ ih ih' => exact ih.trans ih'
  | pairs honce hperm => exact ofNode_spelledOnce _ _ _ honce hperm
  | item hkey _ ih =>
    rw [Description.Alike, ← ofNode_eq, ← ofNode_eq] at ih
    exact ofNode_middle _ _ _ _ _ hkey (.item ih)
  | @namedMember _ tag before after first rest k name m m' _ flow _ share hkey _ ih =>
    rw [Description.Alike, ← ofNode_eq, ← ofNode_eq] at ih
    refine ofNode_middle _ _ _ _ _ hkey (.members ?_)
    rw [membersOf, membersOf, namedMembers_eq, namedMembers_eq, Reading.ofConstruction_mapM,
      Reading.ofConstruction_mapM]
    exact .mapM (forall₂_middle (fun _ => hrefl _) first rest (matches_named _ ih))
  | @member _ tag before after first rest k m m' _ flow _ share hkey _ ih =>
    rw [Description.Alike, ← ofNode_eq, ← ofNode_eq] at ih
    refine ofNode_middle _ _ _ _ _ hkey (.members ?_)
    rw [membersOf, membersOf, plainMembers_eq, plainMembers_eq, Reading.ofConstruction_mapM,
      Reading.ofConstruction_mapM]
    exact .mapM (forall₂_middle (fun _ => hrefl _) first rest ih)

/-- A node that describes a field describes it whatever the order of its keys, and of the keys of
what lies within: with the same attributes at every depth, and with the same issues in some
order. -/
theorem ofNode_reordered [Host] (h : Reordered n n') (hf : ofNode n = .ok f) :
    ∃ g, ofNode n' = .ok g ∧ f.Alike g := by
  have halike := reordered_alike h
  rw [Description.Alike, ← ofNode_eq, ← ofNode_eq, hf] at halike
  generalize hread : Reading.ofConstruction (ofNode n') = reading at halike
  cases halike with
  | @ok _ g hfg =>
    have hsome := Reading.toOption_ofConstruction (ofNode n')
    rw [hread] at hsome
    exact ⟨g, toOption_eq_some hsome.symm, hfg⟩

/-- A struct that names its kind under a key, with some pairs in the order given. -/
def sampleUntidy (order : List (Node × Node) → List (Node × Node)) : Node :=
  .ofPairs (order
    [(.ofText "Type", .ofText "struct"), (.ofText "name", .ofText "PAIR"),
      (.ofText "notes", .ofText "low first"), (.ofText "Colour", .ofText "red"),
      (.ofText "Entries", .ofItems
        [.mapping "!int" (order [(.ofText "Name", .ofText "LOW"), (.ofText "Base", .ofInt 16)])
          false none])])

theorem sampleUntidy_reordered :
    let f : Field :=
      { kind := .struct, name := "PAIR", notes := "low first",
        issues :=
          [View.respelled "name" "Name", View.respelled "notes" "Notes",
            .incomplete "Untagged legacy entry" "Replace 'Type: struct' with a !struct tag",
            .incomplete "Unknown key 'Colour'" "Remove or correct the key"],
        members := [{ kind := .integer, name := "LOW", numberBase := 16 }] }
    Reordered (sampleUntidy id) (sampleUntidy List.reverse) ∧ ofNode (sampleUntidy id) = .ok f ∧
      ∃ g, ofNode (sampleUntidy List.reverse) = .ok g ∧ f.Alike g := by
  intro f
  have hinner : Reordered
      (.mapping "!int" [(.ofText "Name", .ofText "LOW"), (.ofText "Base", .ofInt 16)] false none)
      (.mapping "!int" [(.ofText "Base", .ofInt 16), (.ofText "Name", .ofText "LOW")] false none) :=
    .pairs (by decide : [Key.name, Key.base].Nodup) (List.reverse_perm _).symm
  have hreordered : Reordered (sampleUntidy id) (sampleUntidy List.reverse) := by
    refine .trans (.pairs ?_ (List.reverse_perm _).symm)
      (@Reordered.member _ _ [] _ [] [] _ _ _ _ _ _ _ rfl hinner)
    exact (by decide : [Key.type, Key.name, Key.notes, Key.entries].Nodup)
  have hread : ofNode (sampleUntidy id) = .ok f := rfl
  exact ⟨hreordered, hread, ofNode_reordered hreordered hread⟩

end Field

end GameAtlas.Schema

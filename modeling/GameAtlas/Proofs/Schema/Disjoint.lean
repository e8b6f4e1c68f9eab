import Mathlib.Data.List.Chain
import GameAtlas.Proofs.Schema.Entries
import GameAtlas.Schema.Address

/-!
Entries apart from each other. Each entry is compared with the one before it only. Where nothing is
found, two entries share an address only behind an entry of no bytes that stands at the start of
another; without such entries no address lies in two, and the order of the entries does not matter
to what is found there.
-/

namespace GameAtlas.Schema

open Yaml (Node)

/-- An issue about where an entry lies. -/
def Issue.IsPlacement (i : Issue) : Prop :=
  ∃ rest, i.reason = "Overlaps with previous entry" ++ rest ∨ i.reason = "Out of order" ++ rest

theorem Range.isPlacement_overlapIssue (r : Range) : r.overlapIssue.IsPlacement := by
  have hspace : "Overlaps with previous entry " = "Overlaps with previous entry" ++ " " := rfl
  apply Exists.intro
  left
  simp only [overlapIssue, Issue.severe, hspace, String.append_assoc]
  exact String.append_assoc

theorem Range.isPlacement_orderIssue (before r : Range) : (orderIssue before r).IsPlacement := by
  have hcolon : "Out of order: " = "Out of order" ++ ": " := rfl
  apply Exists.intro
  right
  simp only [orderIssue, Issue.incomplete, hcolon, String.append_assoc]
  exact String.append_assoc

namespace Field

section

variable [Host]

/-- Where an entry lies: its address, and how many bytes it has when no bytes are known. -/
def Lies (f : Field) (a : Int) (n : Nat) : Prop := f.address = some a ∧ f.staticSize = .ok n

/-- Whether an address lies in an entry. -/
def holds (f : Field) (x : Int) : Bool :=
  match f.address, f.staticSize with
  | some a, .ok n => a ≤ x && x < a + n
  | _, _ => false

/-- No address lies in both. -/
def Apart (f g : Field) : Prop := ∀ x, ¬ (f.holds x ∧ g.holds x)

/-- An entry of no bytes stands at the start of one that has some. -/
def SitsOn (e f : Field) : Prop :=
  e.address = f.address ∧ e.staticSize = .ok 0 ∧ f.staticSize ≠ .ok 0

/-- What is known of an entry right behind another when nothing was found there. -/
def Follows (f e : Field) : Prop :=
  ∀ a n b m, f.Lies a n → e.Lies b m → a ≤ b ∧ (a + n ≤ b ∨ b = a ∧ m = 0)

end

section

variable {f g e : Field} {fs before after : List Field} {a b x : Int} {n m : Nat}

theorem holds_iff [Host] (h : f.Lies a n) : f.holds x ↔ a ≤ x ∧ x < a + n := by
  obtain ⟨haddress, hsize⟩ := h
  simp [holds, haddress, hsize]

/-! ### One entry behind another -/

theorem placedSize_of_lies [Host] (h : f.Lies a n) : f.placedSize = .ok (some n, []) := by
  obtain ⟨_, hsize⟩ := h
  rw [placedSize]
  by_cases hstated : f.size.isSome
  · have hresolved : f.resolvedSize [] = .ok n := by
      rw [← hsize, staticSize_eq, if_neg]
      simp [Option.isNone_eq_false_iff.mpr hstated]
    rw [if_pos hstated, hresolved]
    rfl
  · rw [if_neg hstated, hsize]
    rfl

theorem range?_of_lies [Host] (h : f.Lies a n) : f.range? = some ⟨f.name, a, some (a + n)⟩ := by
  have haddress := h.1
  rw [range?, placedSize_of_lies h]
  simp [Range.of?, haddress]

/-- The comparison of an entry with the one before it. -/
theorem follows_of_not_misplaced [Host]
    (h : ∀ i, Misplaced (before ++ [f]) e i → ¬ i.IsPlacement) : f.Follows e := by
  intro a n b m hf he
  have hlast : lastRange (before ++ [f]) = some ⟨f.name, a, some (a + n)⟩ := by
    rw [lastRange_snoc, range?_of_lies hf]
    rfl
  have hrange := range?_of_lies he
  have horder : a ≤ b := by
    by_contra hbefore
    exact h _ (.order hlast hrange (not_le.mp hbefore)) (Range.isPlacement_orderIssue _ _)
  have hoverlap : ¬ (b < a + n ∧ a < b + m) := by
    intro hboth
    refine h _ (.overlap hlast hrange ?_) (Range.isPlacement_overlapIssue _)
    simpa [Range.overlaps] using hboth
  omega

/-! ### Entries behind each other -/

theorem Lies.unique [Host] (h : f.Lies a n) (h' : f.Lies b m) : a = b ∧ n = m := by
  have haddress : some a = some b := h.1.symm.trans h'.1
  have hsize : Except.ok n = (.ok m : Except SizeError Nat) := h.2.symm.trans h'.2
  exact ⟨Option.some.inj haddress, Except.ok.inj hsize⟩

/-- Entries that follow each other are in the order of their addresses. -/
theorem start_le_of_isChain [Host] (hlies : ∀ f ∈ e :: fs, ∃ a n, f.Lies a n)
    (h : (e :: fs).IsChain Follows) (he : e.Lies b m) (hg : g ∈ e :: fs) (hgl : g.Lies a n) :
    b ≤ a := by
  induction fs generalizing e b m with
  | nil =>
    obtain rfl : g = e := List.mem_singleton.mp hg
    exact le_of_eq (he.unique hgl).1
  | cons next rest ih =>
    rcases List.mem_cons.mp hg with rfl | hg
    · exact le_of_eq (he.unique hgl).1
    · obtain ⟨hfollows, hchain⟩ := List.isChain_cons_cons.mp h
      have hrest : ∀ f ∈ next :: rest, ∃ a n, f.Lies a n :=
        fun f hf => hlies f (List.mem_cons_of_mem e hf)
      obtain ⟨c, k, hnext⟩ := hrest next List.mem_cons_self
      have hstep : b ≤ c := (hfollows b m c k he hnext).1
      exact hstep.trans (ih hrest hchain hnext hg)

/-- Either the entry behind `f` starts where `f` has ended, and then all behind it do, or it is an
entry of no bytes at the start of `f`. -/
theorem sitsOn_of_isChain [Host] (hlies : ∀ e ∈ f :: fs, ∃ a n, e.Lies a n)
    (h : (f :: fs).IsChain Follows) (hg : g ∈ fs) (hshared : ¬ f.Apart g) :
    ∃ e rest, fs = e :: rest ∧ e.SitsOn f := by
  cases fs with
  | nil => cases hg
  | cons e rest =>
    obtain ⟨hfollows, hchain⟩ := List.isChain_cons_cons.mp h
    obtain ⟨a, n, hf⟩ := hlies f List.mem_cons_self
    have hrest : ∀ e' ∈ e :: rest, ∃ a n, e'.Lies a n :=
      fun e' he' => hlies e' (List.mem_cons_of_mem f he')
    obtain ⟨b, m, he⟩ := hrest e List.mem_cons_self
    obtain ⟨c, k, hgl⟩ := hrest g hg
    have horder : b ≤ c := start_le_of_isChain hrest hchain he hg hgl
    obtain ⟨x, hxf, hxg⟩ : ∃ x, f.holds x ∧ g.holds x := by
      simpa [Apart] using hshared
    rw [holds_iff hf] at hxf
    rw [holds_iff hgl] at hxg
    obtain ⟨-, hbehind | ⟨hstart, hempty⟩⟩ := hfollows a n b m hf he
    · omega
    · have hbytes : n ≠ 0 := by omega
      refine ⟨e, rest, rfl, ?_, ?_, ?_⟩
      · rw [he.1, hf.1, hstart]
      · rw [he.2, hempty]
      · rw [hf.2]
        intro hzero
        exact hbytes (Except.ok.inj hzero)

/-- Without entries of no bytes that stand at the start of others, all are apart. -/
theorem pairwise_apart [Host] (hlies : ∀ f ∈ fs, ∃ a n, f.Lies a n) (h : fs.IsChain Follows)
    (hfree : fs.IsChain fun f e => ¬ e.SitsOn f) : fs.Pairwise Apart := by
  induction fs with
  | nil => exact .nil
  | cons f rest ih =>
    have hrest := ih (fun e he => hlies e (List.mem_cons_of_mem f he)) h.tail hfree.tail
    refine .cons ?_ hrest
    intro g hg
    by_contra hshared
    obtain ⟨e, behind, rfl, hsits⟩ := sitsOn_of_isChain hlies h hg hshared
    exact (List.isChain_cons_cons.mp hfree).1 hsits

/-! ### What is found at an address -/

theorem offsetOf?_of_lies [Host] (h : f.Lies a n) (x : Int) :
    f.offsetOf? x = .ok (if f.holds x then some (x - a) else none) := by
  have hholds := holds_iff (x := x) h
  obtain ⟨haddress, hsize⟩ := h
  rw [offsetOf?, haddress, hsize]
  by_cases hbefore : x < a
  · have hnot : ¬ f.holds x := by
      rw [hholds]
      omega
    simp [hbefore, hnot]
  · by_cases hin : x < a + n
    · have hyes : f.holds x := hholds.mpr ⟨not_lt.mp hbefore, hin⟩
      simp only [hbefore, if_false, hyes, if_true]
      exact congrArg Except.ok (if_pos hin)
    · have hnot : ¬ f.holds x := by
        rw [hholds]
        omega
      simp only [hbefore, if_false, hnot]
      exact congrArg Except.ok (if_neg hin)

theorem firstHolding_of_lies [Host] (hlies : ∀ f ∈ fs, ∃ a n, f.Lies a n) (x : Int) :
    (Game.firstHolding x fs).map (fun found => found.map Prod.fst) =
      .ok (fs.find? fun f => f.holds x) := by
  induction fs with
  | nil => rfl
  | cons f rest ih =>
    obtain ⟨a, n, hf⟩ := hlies f List.mem_cons_self
    have hrest := ih fun e he => hlies e (List.mem_cons_of_mem f he)
    rw [Game.firstHolding, offsetOf?_of_lies hf, List.find?_cons]
    cases f.holds x with
    | true => rfl
    | false => exact hrest

theorem length_holding_le [Host] (h : fs.Pairwise Apart) (x : Int) :
    (fs.filter fun f => f.holds x).length ≤ 1 := by
  have hall : ∀ f ∈ fs.filter fun f => f.holds x, f.holds x = true :=
    fun f hf => (List.mem_filter.mp hf).2
  have hapart : (fs.filter fun f => f.holds x).Pairwise Apart := h.filter _
  match hfound : fs.filter fun f => f.holds x with
  | [] => simp [hfound]
  | [f] => simp [hfound]
  | f :: g :: rest =>
    rw [hfound] at hall hapart
    have hboth := List.rel_of_pairwise_cons hapart List.mem_cons_self
    exact absurd ⟨hall f (by simp), hall g (by simp)⟩ (hboth x)

/-- Where entries are apart, the one that holds an address is found in every order. -/
theorem find?_holds_of_perm [Host] {gs : List Field} (h : fs.Pairwise Apart) (hperm : gs.Perm fs)
    (x : Int) : (gs.find? fun f => f.holds x) = fs.find? fun f => f.holds x := by
  rw [← List.head?_filter, ← List.head?_filter]
  have hfilter := hperm.filter fun f => f.holds x
  have hlength := length_holding_le h x
  match hfound : fs.filter fun f => f.holds x with
  | [] =>
    rw [hfound] at hfilter ⊢
    rw [hfilter.eq_nil]
  | [f] =>
    rw [hfound] at hfilter ⊢
    rw [List.perm_singleton.mp hfilter]
  | f :: g :: rest =>
    rw [hfound] at hlength
    simp at hlength

end

end Field

/-! ### Games -/

namespace Game

variable {metadata definitions : Option Node} {g : Game}

/-- What is wrong with the place of an entry of a loaded game is among its issues. -/
theorem misplaced_recorded [Host] (h : ofNodes metadata definitions = .ok g) :
    ∀ before f after, g.entries = before ++ f :: after →
      ∀ i, Misplaced before f i → i ∈ f.issues := by
  obtain ⟨_, pairs, _, hpairs, _⟩ := exists_pairs_of_ofNodes h
  have hseen : ∀ s, s ∈ ([] : List String) ↔ ∃ d ∈ ([] : List Field), d.name = s := by simp
  obtain ⟨_, hplacement⟩ := Field.recorded_of_entriesOf hpairs hseen rfl
  exact hplacement

theorem follows_of_clean [Host] (h : ofNodes metadata definitions = .ok g)
    (hclean : ∀ f ∈ g.entries, ∀ i ∈ f.issues, ¬ i.IsPlacement) :
    g.entries.IsChain Field.Follows := by
  rw [List.isChain_iff_forall_rel_of_append_cons_cons]
  intro f e before after hsplit
  have hsplit' : g.entries = (before ++ [f]) ++ e :: after := by simp [hsplit]
  have hmem : e ∈ g.entries := by simp [hsplit]
  have hfree : ∀ i, Misplaced (before ++ [f]) e i → ¬ i.IsPlacement :=
    fun i hi => hclean e hmem i (misplaced_recorded h _ e after hsplit' i hi)
  exact Field.follows_of_not_misplaced hfree

theorem containing?_of_lies [Host] (hlies : ∀ f ∈ g.entries, ∃ a n, f.Lies a n) (x : Int) :
    g.containing? x = .ok (g.entries.find? fun f => f.holds x) :=
  Field.firstHolding_of_lies hlies x

/-- In a loaded game of which all entries have an address and a size and nothing is found wrong with
where they lie, an entry shares an address with one behind it only if an entry of no bytes stands
right behind it at its own address. Without such entries no address lies in two entries, and what is
found at an address does not depend on their order. -/
theorem entries_apart [Host] (hload : ofNodes metadata definitions = .ok g)
    (hlies : ∀ f ∈ g.entries, ∃ a n, f.Lies a n)
    (hclean : ∀ f ∈ g.entries, ∀ i ∈ f.issues, ¬ i.IsPlacement) :
    (∀ before f behind, g.entries = before ++ f :: behind → ∀ other ∈ behind, ¬ f.Apart other →
        ∃ e rest, behind = e :: rest ∧ e.SitsOn f) ∧
      (g.entries.IsChain (fun f e => ¬ e.SitsOn f) →
        g.entries.Pairwise Field.Apart ∧
          (∀ x, (g.entries.filter fun f => f.holds x).length ≤ 1) ∧
          ∀ fs x, fs.Perm g.entries →
            Game.containing? { g with entries := fs } x = g.containing? x) := by
  have hchain := follows_of_clean hload hclean
  refine ⟨?_, ?_⟩
  · intro before f behind hsplit other hother hshared
    have hsuffix : (f :: behind) <:+ g.entries := ⟨before, hsplit.symm⟩
    have hlies' : ∀ e ∈ f :: behind, ∃ a n, e.Lies a n :=
      fun e he => hlies e (hsuffix.subset he)
    exact Field.sitsOn_of_isChain hlies' (hchain.suffix hsuffix) hother hshared
  · intro hfree
    have hapart := Field.pairwise_apart hlies hchain hfree
    refine ⟨hapart, Field.length_holding_le hapart, ?_⟩
    intro fs x hperm
    have hlies' : ∀ f ∈ fs, ∃ a n, f.Lies a n := fun f hf => hlies f (hperm.subset hf)
    rw [containing?_of_lies hlies, containing?_of_lies hlies']
    rw [Field.find?_holds_of_perm hapart hperm]

/-- A number of bytes at an address. -/
def sampleBytes (name : String) (address size : Int) : Node × Node :=
  (.ofText name, .mapping "!undefined"
    [(.ofText "Offset", .ofHex address), (.ofText "Size", .ofInt size)] false none)

/-- The entry that is read for it where nothing is wrong. -/
def sampleEntry (name : String) (address : Int) (size : String) : Field :=
  { kind := .undefined, name := name, address := some address, size := some size }

/-- Two entries next to each other and one behind a gap. -/
def sampleApart : List Field :=
  [sampleEntry "A" 0 "2", sampleEntry "B" 2 "4", sampleEntry "C" 16 "1"]

/-- An entry of no bytes in front of one that reaches into an entry before. -/
def sampleNested : List Field :=
  [sampleEntry "A" 0 "10", sampleEntry "B" 0 "0", sampleEntry "C" 5 "1"]

theorem sampleApart_apart :
    let game : Game := { title := "Sample", country := "Nowhere", entries := sampleApart }
    ofNodes (some sampleMetadata)
        (some (.ofPairs [sampleBytes "A" 0 2, sampleBytes "B" 2 4, sampleBytes "C" 16 1])) =
          .ok game ∧
      (∀ f ∈ game.entries, ∃ a n, f.Lies a n) ∧
      (∀ f ∈ game.entries, ∀ i ∈ f.issues, ¬ i.IsPlacement) ∧
      (game.entries.IsChain fun f e => ¬ e.SitsOn f) ∧
      game.entries.Pairwise Field.Apart ∧
      Game.containing? { game with entries := sampleApart.reverse } 3 = game.containing? 3 := by
  intro game
  have hload : ofNodes (some sampleMetadata)
      (some (.ofPairs [sampleBytes "A" 0 2, sampleBytes "B" 2 4, sampleBytes "C" 16 1])) =
        .ok game := rfl
  have hlies : ∀ f ∈ game.entries, ∃ a n, f.Lies a n := by
    intro f hf
    simp only [game, sampleApart, List.mem_cons, List.not_mem_nil, or_false] at hf
    rcases hf with rfl | rfl | rfl
    · exact ⟨0, 2, rfl, rfl⟩
    · exact ⟨2, 4, rfl, rfl⟩
    · exact ⟨16, 1, rfl, rfl⟩
  have hclean : ∀ f ∈ game.entries, ∀ i ∈ f.issues, ¬ i.IsPlacement := by
    intro f hf i hi
    simp only [game, sampleApart, List.mem_cons, List.not_mem_nil, or_false] at hf
    rcases hf with rfl | rfl | rfl <;> cases hi
  have hfree : game.entries.IsChain fun f e => ¬ e.SitsOn f := by
    refine List.isChain_cons_cons.mpr ⟨?_, List.isChain_cons_cons.mpr ⟨?_, .singleton _⟩⟩
    · rintro ⟨haddress, _⟩
      cases haddress
    · rintro ⟨haddress, _⟩
      cases haddress
  obtain ⟨_, hall⟩ := entries_apart hload hlies hclean
  obtain ⟨hapart, _, horder⟩ := hall hfree
  exact ⟨hload, hlies, hclean, hfree, hapart, horder _ 3 (List.reverse_perm _)⟩

/-- Nothing is found, and yet an address lies in two entries. -/
theorem sampleNested_shares :
    let game : Game := { title := "Sample", country := "Nowhere", entries := sampleNested }
    ofNodes (some sampleMetadata)
        (some (.ofPairs [sampleBytes "A" 0 10, sampleBytes "B" 0 0, sampleBytes "C" 5 1])) =
          .ok game ∧
      game.problems = [] ∧ (∀ f ∈ game.entries, ∃ a n, f.Lies a n) ∧
      ¬ game.entries.Pairwise Field.Apart := by
  intro game
  refine ⟨rfl, rfl, ?_, ?_⟩
  · intro f hf
    simp only [game, sampleNested, List.mem_cons, List.not_mem_nil, or_false] at hf
    rcases hf with rfl | rfl | rfl
    · exact ⟨0, 10, rfl, rfl⟩
    · exact ⟨0, 0, rfl, rfl⟩
    · exact ⟨5, 1, rfl, rfl⟩
  · intro hapart
    have hfirst : (sampleEntry "A" 0 "10").Apart (sampleEntry "C" 5 "1") :=
      List.rel_of_pairwise_cons hapart (by simp)
    exact hfirst 5 ⟨rfl, rfl⟩

end Game

end GameAtlas.Schema

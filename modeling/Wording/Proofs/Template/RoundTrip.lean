import Wording.Proofs.Template.BlockReading
import Wording.Proofs.Template.Written

/-!
# Compiling what was written

The markers find the fragments of a written template again, and the pieces that they make of them
stand for the tree that was written: `compile_written`.

What the scanner does at a fragment is said of any text in which the fragment stands at a place,
whatever follows; only a text has to know that no text follows.
-/

namespace Wording

open Pattern (standsAt standsAt_cons)
open Braces Fragment

/-! ## Plain fragments -/

/-- A fragment that is found again. -/
def Fragment.Plain : Fragment → Prop
  | .text s => s ≠ "" ∧ BraceFree s
  | .span _ code => Inline code

/-- Such fragments, of which no text follows a text. -/
def Fragment.PlainAll : List Fragment → Prop
  | [] => True
  | p :: ps => p.Plain ∧ (p.isText → ¬ ps.head?.any Fragment.isText) ∧ Fragment.PlainAll ps

theorem Fragment.PlainAll.append {ps qs : List Fragment} (hp : PlainAll ps) (hq : PlainAll qs)
    (h : ps.getLast?.any Fragment.isText → ¬ qs.head?.any Fragment.isText) :
    PlainAll (ps ++ qs) := by
  induction ps with
  | nil => exact hq
  | cons p ps ih =>
    obtain ⟨hfirst, hnext, hrest⟩ := hp
    cases ps with
    | nil => exact ⟨hfirst, h, hq⟩
    | cons p' ps => exact ⟨hfirst, hnext, ih hrest h⟩

theorem plainAll_cons_span {role : Role} {code : String} {ps : List Fragment} (hcode : Inline code)
    (hps : PlainAll ps) : PlainAll (.span role code :: ps) :=
  ⟨hcode, fun h => absurd h Bool.false_ne_true, hps⟩

/-! A node begins and ends with a text only if it is one. -/

theorem isText_head?_fragments (n : Node) (ps : List Fragment) :
    (n.fragments ++ ps).head?.any Fragment.isText = n.isText := by
  cases n <;> rfl

theorem isText_head?_fragmentsAll (ns : List Node) :
    (Node.fragmentsAll ns).head?.any Fragment.isText = ns.head?.any Node.isText := by
  cases ns with
  | nil => rfl
  | cons n ns => exact isText_head?_fragments n _

theorem isText_getLast?_branches :
    (br : Branches) → br.fragments.getLast?.any Fragment.isText = false
  | .done => rfl
  | .otherwise _ => by
    rw [Branches.fragments, ← List.cons_append, List.getLast?_append]
    rfl
  | .elseIf _ _ rest => by
    have hne : rest.fragments ≠ [] := by cases rest <;> simp [Branches.fragments]
    rw [Branches.fragments, ← List.cons_append, List.getLast?_append_of_ne_nil _ hne]
    exact isText_getLast?_branches rest

theorem isText_getLast?_fragments (n : Node) :
    n.fragments.getLast?.any Fragment.isText = n.isText := by
  cases n with
  | text | escape | interpolate | emit | set => rfl
  | cond test body rest =>
    have hne : rest.fragments ≠ [] := by cases rest <;> simp [Branches.fragments]
    rw [Node.fragments, ← List.cons_append, List.getLast?_append_of_ne_nil _ hne]
    exact isText_getLast?_branches rest
  | loop name items body =>
    rw [Node.fragments, ← List.cons_append, List.getLast?_append]
    rfl

mutual

theorem plainAll_fragments : (n : Node) → n.Plain → PlainAll n.fragments
  | .text _, h => ⟨h, fun _ => Bool.false_ne_true, trivial⟩
  | .escape _, he => plainAll_cons_span he.inline trivial
  | .interpolate _, he => plainAll_cons_span he.inline trivial
  | .emit _, he => plainAll_cons_span (Statement.Plain.emit he).inline trivial
  | .set _ _, ⟨hn, he⟩ => plainAll_cons_span (Statement.Plain.set hn he).inline trivial
  | .cond _ body rest, ⟨he, hbody, hrest⟩ =>
    plainAll_cons_span (Statement.Plain.ifThen he).inline
      ((plainAll_fragmentsAll body hbody).append (plainAll_branches rest hrest) fun _ => by
        cases rest <;> exact Bool.false_ne_true)
  | .loop _ _ body, ⟨hn, he, hbody⟩ =>
    plainAll_cons_span (Statement.Plain.forEach hn he).inline
      ((plainAll_fragmentsAll body hbody).append
        (plainAll_cons_span Statement.Plain.done.inline trivial) fun _ => Bool.false_ne_true)

/-- **The fragments of a plain tree are found again.** -/
theorem plainAll_fragmentsAll :
    (ns : List Node) → Node.PlainAll ns → PlainAll (Node.fragmentsAll ns)
  | [], _ => trivial
  | n :: ns, ⟨hn, hnext, hns⟩ =>
    (plainAll_fragments n hn).append (plainAll_fragmentsAll ns hns) (by
      rwa [isText_getLast?_fragments, isText_head?_fragmentsAll])

theorem plainAll_branches : (br : Branches) → br.Plain → PlainAll br.fragments
  | .done, _ => plainAll_cons_span Statement.Plain.done.inline trivial
  | .otherwise body, hbody =>
    plainAll_cons_span Statement.Plain.otherwise.inline
      ((plainAll_fragmentsAll body hbody).append
        (plainAll_cons_span Statement.Plain.done.inline trivial) fun _ => Bool.false_ne_true)
  | .elseIf _ body rest, ⟨he, hbody, hrest⟩ =>
    plainAll_cons_span (Statement.Plain.elseIf he).inline
      ((plainAll_fragmentsAll body hbody).append (plainAll_branches rest hrest) fun _ => by
        cases rest <;> exact Bool.false_ne_true)

end

/-! ## Where fragments stand -/

variable {text : Array Char} {i : Nat} {cs rest : List Char}

theorem drop_add (cs : List Char) (h : text.toList.drop i = cs ++ rest) :
    text.toList.drop (i + cs.length) = rest := by
  rw [← List.drop_drop, h, List.drop_left]

theorem getElem?_of_drop {c : Char} (h : text.toList.drop i = c :: rest) : text[i]? = some c := by
  rw [← Array.getElem?_toList, ← List.head?_drop, h, List.head?_cons]

theorem lt_size_of_drop {c : Char} (h : text.toList.drop i = c :: rest) : i < text.size := by
  obtain ⟨hi, _⟩ := Array.getElem?_eq_some_iff.mp (getElem?_of_drop h)
  exact hi

theorem standsAt_of_drop (h : text.toList.drop i = cs ++ rest) : standsAt text cs i = true := by
  rw [standsAt, h]
  exact List.isPrefixOf_iff_prefix.mpr (List.prefix_append _ _)

theorem slice_of_drop (h : text.toList.drop i = cs ++ rest) :
    slice text i (i + cs.length) = cs := by
  rw [toList_slice, h, Nat.add_sub_cancel_left, List.take_left]

theorem otherAt_of_drop {c : Char} (h : text.toList.drop i = c :: rest) (ds : List Char) :
    otherAt text ds i = !ds.contains c := by
  rw [otherAt, getElem?_of_drop h, Option.any_some]

theorem firstFrom?_eq (cs : List Char) (hi : i ≤ text.size) :
    firstFrom? text cs i = if standsAt text cs i then some i else firstFrom? text cs (i + 1) := by
  rw [firstFrom?, show text.size + 1 - i = text.size + 1 - (i + 1) + 1 by omega, List.range'_succ,
    List.find?_cons, firstFrom?]
  cases standsAt text cs i <;> rfl

/-- The first closing behind characters that are no closing brace stands behind them all. -/
theorem firstFrom?_closing {n : Nat} (hcs : '\x7d' ∉ cs)
    (h : text.toList.drop i = cs ++ (closing (n + 1) ++ rest)) :
    firstFrom? text (closing (n + 1)) i = some (i + cs.length) := by
  induction cs generalizing i with
  | nil =>
    have hi : i < text.size := lt_size_of_drop h
    rw [List.nil_append] at h
    rw [firstFrom?_eq _ (Nat.le_of_lt hi), if_pos (standsAt_of_drop h), List.length_nil,
      Nat.add_zero]
  | cons c cs ih =>
    rw [List.mem_cons, not_or] at hcs
    have hno : standsAt text (closing (n + 1)) i = false := by
      rw [closing, List.replicate_succ, standsAt_cons, getElem?_of_drop h]
      simp [Ne.symm hcs.1]
    have hnext : firstFrom? text (closing (n + 1)) (i + 1) = some (i + 1 + cs.length) :=
      ih hcs.2 (drop_add [c] h)
    rw [firstFrom?_eq _ (Nat.le_of_lt (lt_size_of_drop h)), hno, if_neg Bool.false_ne_true, hnext,
      List.length_cons, Nat.add_assoc, Nat.add_comm 1]

/-! ## What the scanner finds at a fragment -/

theorem length_padded (code : String) : (padded code).length = code.length + 2 := by
  rw [padded, List.length_cons, List.length_append, String.length_toList]
  rfl

/-- The closing of a span is found from any place within the code. -/
theorem firstFrom?_padded {n k : Nat} {code : String} (hcode : BraceFree code)
    (hk : k ≤ (padded code).length)
    (h : text.toList.drop i = padded code ++ (closing (n + 1) ++ rest)) :
    firstFrom? text (closing (n + 1)) (i + k) = some (i + (padded code).length) := by
  have hdrop : text.toList.drop (i + k) = (padded code).drop k ++ (closing (n + 1) ++ rest) := by
    rw [← List.drop_drop, h, List.drop_append_of_le_length hk]
  have hno : '\x7d' ∉ (padded code).drop k := by
    intro hmem
    have := List.mem_of_mem_drop hmem
    simp [padded, hcode.2] at this
  rw [firstFrom?_closing hno hdrop, List.length_drop]
  congr 1
  omega

/-- The match of a span that is written at a place. -/
def spanHit (i : Nat) (role : Role) (code : String) : Markers.Hit :=
  let stop := i + (Fragment.span role code).written.length
  match role with
  | .escape => ⟨i, stop, some (padded code), none, none⟩
  | .interpolate => ⟨i, stop, none, some (padded code), none⟩
  | .evaluate => ⟨i, stop, none, none, some (padded code)⟩

section

variable {code : String} (hcode : Inline code)

include hcode

theorem escapeAt?_span (h : text.toList.drop i = (Fragment.span .escape code).written ++ rest) :
    escapeAt? text i = some (spanHit i .escape code) := by
  rw [Fragment.written, List.append_assoc, List.append_assoc] at h
  have hinner : text.toList.drop (i + 2) = padded code ++ (closing 2 ++ rest) :=
    drop_add (opening 2) h
  have hlen := length_padded code
  have hclosing : firstFrom? text (closing 2) (i + 4) = some (i + 2 + (padded code).length) :=
    firstFrom?_padded (k := 2) hcode.1 (by omega) hinner
  rw [escapeAt?, standsAt_of_drop h, otherAt_of_drop hinner, hclosing]
  simp [slice_of_drop hinner, spanHit, Fragment.written, opening, closing]
  omega

theorem interpolateAt?_span
    (h : text.toList.drop i = (Fragment.span .interpolate code).written ++ rest) :
    escapeAt? text i = none ∧ interpolateAt? text i = some (spanHit i .interpolate code) := by
  rw [Fragment.written, List.append_assoc, List.append_assoc] at h
  have hthird : text.toList.drop (i + 2) = '\x7b' :: (padded code ++ (closing 3 ++ rest)) :=
    drop_add (opening 2) h
  have hinner : text.toList.drop (i + 3) = padded code ++ (closing 3 ++ rest) :=
    drop_add (opening 3) h
  have hlen := length_padded code
  have hclosing : firstFrom? text (closing 3) (i + 5) = some (i + 3 + (padded code).length) :=
    firstFrom?_padded (k := 2) hcode.1 (by omega) hinner
  constructor
  · rw [escapeAt?, otherAt_of_drop hthird]
    simp
  · rw [interpolateAt?, standsAt_of_drop h, otherAt_of_drop hinner, hclosing]
    simp [slice_of_drop hinner, spanHit, Fragment.written, opening, closing]
    omega

theorem evaluateAt?_span (h : text.toList.drop i = (Fragment.span .evaluate code).written ++ rest) :
    escapeAt? text i = none ∧ interpolateAt? text i = none ∧
      evaluateAt? text i = some (spanHit i .evaluate code) := by
  rw [Fragment.written, List.append_assoc, List.cons_append, List.append_assoc] at h
  have hsign : text.toList.drop (i + 2) = '#' :: (padded code ++ (closing 2 ++ rest)) :=
    drop_add (opening 2) h
  have hinner : text.toList.drop (i + 3) = padded code ++ (closing 2 ++ rest) :=
    drop_add ['#'] hsign
  have hline : text.toList.drop (i + 4) =
      (code.toList ++ [' ']) ++ (closing 2 ++ rest) := drop_add [' '] hinner
  have hlen := length_padded code
  have hclosing : firstFrom? text (closing 2) (i + 4) = some (i + 3 + (padded code).length) :=
    firstFrom?_padded (k := 1) hcode.1 (by omega) hinner
  have hnoline : (slice text (i + 4) (i + 3 + (padded code).length)).contains '\n' = false := by
    have hslice := slice_of_drop hline
    rw [show i + 4 + (code.toList ++ [' ']).length = i + 3 + (padded code).length by
      rw [padded, List.length_cons]; omega] at hslice
    simp [hslice, hcode.2]
  refine ⟨?_, ?_, ?_⟩
  · rw [escapeAt?, otherAt_of_drop hsign]
    simp
  · have hno : standsAt text (opening 3) i = false := by
      simp [opening, List.replicate_succ, standsAt_cons, getElem?_of_drop hsign]
    rw [interpolateAt?, hno]
    rfl
  · have hopen : standsAt text (opening 2 ++ ['#']) i = true := by
      rw [List.append_cons] at h
      exact standsAt_of_drop h
    rw [evaluateAt?, hopen, otherAt_of_drop hinner, hclosing, Option.filter_some, hnoline]
    simp [slice_of_drop hinner, spanHit, Fragment.written, opening, closing]
    omega

/-- **Where a span is written, the scanner finds it.** -/
theorem spanAt?_span {role : Role}
    (h : text.toList.drop i = (Fragment.span role code).written ++ rest) :
    spanAt? text i = some (spanHit i role code) := by
  cases role with
  | escape => rw [spanAt?, escapeAt?_span hcode h, Option.some_or]
  | interpolate =>
    obtain ⟨hno, hat⟩ := interpolateAt?_span hcode h
    rw [spanAt?, hno, hat, Option.none_or, Option.some_or]
  | evaluate =>
    obtain ⟨hno, hno', hat⟩ := evaluateAt?_span hcode h
    rw [spanAt?, hno, hno', hat, Option.none_or, Option.none_or]

end

theorem scanFrom_span {role : Role} {code : String} (hcode : Inline code)
    (h : text.toList.drop i = (Fragment.span role code).written ++ rest) :
    scanFrom text i = spanHit i role code ::
      scanFrom text (i + (Fragment.span role code).written.length) := by
  have hi : i < text.size := by
    cases role <;> exact lt_size_of_drop h
  rw [scanFrom_of_some hi (spanAt?_span hcode h)]
  cases role <;> rfl

/-- The scanner goes through characters that are no opening brace. -/
theorem scanFrom_text (hcs : '\x7b' ∉ cs) (h : text.toList.drop i = cs ++ rest) :
    scanFrom text i = scanFrom text (i + cs.length) := by
  induction cs generalizing i with
  | nil => rfl
  | cons c cs ih =>
    rw [List.mem_cons, not_or] at hcs
    have hno : ∀ n ds, standsAt text (opening (n + 1) ++ ds) i = false := by
      intro n ds
      rw [opening, List.replicate_succ, List.cons_append, standsAt_cons, getElem?_of_drop h]
      simp [Ne.symm hcs.1]
    have hspan : spanAt? text i = none := by
      have h2 := hno 1 []
      have h3 := hno 2 []
      rw [List.append_nil] at h2 h3
      rw [spanAt?, escapeAt?, interpolateAt?, evaluateAt?, h2, h3, hno 1 ['#']]
      rfl
    have hnext : scanFrom text (i + 1) = scanFrom text (i + 1 + cs.length) :=
      ih hcs.2 (drop_add [c] h)
    rw [scanFrom_of_none (lt_size_of_drop h) hspan, hnext, List.length_cons, Nat.add_assoc,
      Nat.add_comm 1]

/-! ## The pieces of what was written -/

theorem ofHit_spanHit (i : Nat) (role : Role) (code : String) :
    Piece.ofHit (spanHit i role code) = [(Fragment.span role code).piece i] := by
  cases role <;> rfl

theorem gap_self (text : Array Char) (i : Nat) : Piece.gap text i i = [] := by
  rw [Piece.gap, if_neg (Nat.lt_irrefl i)]

theorem gap_of_drop {s : String} (hs : s ≠ "") (h : text.toList.drop i = s.toList ++ rest) :
    Piece.gap text i (i + s.toList.length) = [.text s] := by
  have hslice : (text.extract i (i + s.toList.length)).toList = s.toList := slice_of_drop h
  have hlen : 0 < s.toList.length := by
    rw [String.length_toList, Nat.pos_iff_ne_zero, Ne, String.length_eq_zero_iff]
    exact hs
  rw [Piece.gap, if_pos (by omega), hslice, String.ofList_toList]

/-- Unless a text is written at a place, a match begins there: a span, or the end. -/
theorem exists_scanFrom_eq_cons {ps : List Fragment} (hps : PlainAll ps)
    (hno : ¬ ps.head?.any Fragment.isText) (hi : i ≤ text.size)
    (h : text.toList.drop i = ps.flatMap Fragment.written) :
    ∃ hit hits, scanFrom text i = hit :: hits ∧ hit.start = i := by
  cases ps with
  | nil =>
    have hsize : i = text.size := by
      rw [List.flatMap_nil, List.drop_eq_nil_iff, Array.length_toList] at h
      omega
    rw [hsize, scanFrom_size]
    exact ⟨_, _, rfl, rfl⟩
  | cons p ps =>
    obtain ⟨hp, -, -⟩ := hps
    cases p with
    | text s => exact absurd rfl hno
    | span role code =>
      refine ⟨_, _, scanFrom_span hp h, ?_⟩
      cases role <;> rfl

/-- **The fragments that are written from a place on are found there.** -/
theorem ofHits_scanFrom {ps : List Fragment} (hps : PlainAll ps) (hi : i ≤ text.size)
    (h : text.toList.drop i = ps.flatMap Fragment.written) :
    Piece.ofHits text i (scanFrom text i) = located i ps := by
  induction ps generalizing i with
  | nil =>
    have hsize : i = text.size := by
      rw [List.flatMap_nil, List.drop_eq_nil_iff, Array.length_toList] at h
      omega
    rw [hsize, scanFrom_size]
    simp [Piece.ofHits, Piece.gap, Piece.ofHit, lastHit, Markers.Hit.role?, located]
  | cons p ps ih =>
    obtain ⟨hp, hnext, hrest⟩ := hps
    rw [List.flatMap_cons] at h
    have hdrop := drop_add _ h
    have hle : i + p.written.length ≤ text.size := by
      have := congrArg List.length h
      rw [List.length_drop, List.length_append, Array.length_toList] at this
      omega
    have hih := ih hrest hle hdrop
    rw [located]
    cases p with
    | text s =>
      obtain ⟨hit, hits, hscan, hstart⟩ := exists_scanFrom_eq_cons hrest (hnext rfl) hle hdrop
      rw [hscan, Piece.ofHits, hstart, gap_self, List.nil_append] at hih
      rw [scanFrom_text hp.2.1 h]
      rw [Fragment.written] at hscan hstart
      rw [hscan, Piece.ofHits, hstart, gap_of_drop hp.1 h, List.append_assoc, hih]
      rfl
    | span role code =>
      have hstart : (spanHit i role code).start = i := by cases role <;> rfl
      have hstop : (spanHit i role code).stop = i + (Fragment.span role code).written.length := by
        cases role <;> rfl
      rw [scanFrom_span hp h, Piece.ofHits, hstart, hstop, gap_self, ofHit_spanHit, hih]
      rfl

/-- **Compiling undoes writing**: with the known markers, the text of a plain tree compiles, and to
that tree. -/
theorem compile_written {ns : List Node} (hns : Node.PlainAll ns) :
    ∃ m, Markers.ofOffers Marker.doubleBraces Marker.tripleBraces Marker.hashBraces = .ok m ∧
      Template.compile m (Node.written ns) = .ok ⟨Node.written ns, m, ns⟩ := by
  obtain ⟨m, hm, hregex⟩ := exists_ofOffers
  refine ⟨m, hm, ?_⟩
  have hpieces : Piece.ofText m (Node.written ns) = located 0 (Node.fragmentsAll ns) := by
    rw [Piece.ofText, hits_of_regex hregex, Node.written]
    refine ofHits_scanFrom (plainAll_fragmentsAll ns hns) (Nat.zero_le _) ?_
    rw [String.toList_ofList]
    rfl
  have hnodes : Node.ofPieces (Piece.ofText m (Node.written ns)) = .ok ns := by
    rw [hpieces, Blocks.ofPieces_eq_ok_iff]
    exact bodyRel_located ns hns 0
  rw [Template.compile, hnodes]

/-- The expression that a text writes. -/
def Expression.ofSource (s : String) (h : (Expression.read s).toOption.isSome) : Expression :=
  (Expression.read s).toOption.get h

theorem Expression.plain_ofSource {s : String} (h : (Expression.read s).toOption.isSome)
    (htrim : Text.trim s.toList = s.toList) (hs : Inline s) : (ofSource s h).Plain := by
  have hread : Expression.read s = .ok (ofSource s h) := by
    cases hr : Expression.read s with
    | error f => simp [hr, Except.toOption] at h
    | ok e => simp [ofSource, hr, Except.toOption]
  have hsource : (ofSource s h).source = s := by
    rw [← String.toList_inj, (source_of_read hread).1, htrim]
  exact ⟨by rw [hsource, hread], by rwa [hsource]⟩

/-- A loop over a condition with all kinds of branches; its expressions hold the words and signs
that separate the parts of statements. -/
theorem compile_written_loop :
    let item := Expression.ofSource "x_1" (by decide +kernel)
    let contained := Expression.ofSource "a in b" (by decide +kernel)
    let same := Expression.ofSource "c == d" (by decide +kernel)
    let chosen := Expression.ofSource "a if b else c" (by decide +kernel)
    let tree : List Node := [
      .text "# ",
      .loop "x_1" contained [
        .cond item [.escape item, .text " in "]
          (.elseIf same [.set "In" same] (.otherwise [.emit chosen])),
        .interpolate chosen]]
    Node.PlainAll tree ∧
      ∃ m, Markers.ofOffers Marker.doubleBraces Marker.tripleBraces Marker.hashBraces = .ok m ∧
        Template.compile m (Node.written tree) = .ok ⟨Node.written tree, m, tree⟩ := by
  intro item contained same chosen tree
  have hitem : item.Plain := Expression.plain_ofSource _ (by decide) (by decide)
  have hcontained : contained.Plain := Expression.plain_ofSource _ (by decide) (by decide)
  have hsame : same.Plain := Expression.plain_ofSource _ (by decide) (by decide)
  have hchosen : chosen.Plain := Expression.plain_ofSource _ (by decide) (by decide)
  have hplain : Node.PlainAll tree := by
    simp only [tree, Node.PlainAll, Node.Plain, Branches.Plain, hitem, hcontained, hsame, hchosen]
    decide
  exact ⟨hplain, compile_written hplain⟩

end Wording

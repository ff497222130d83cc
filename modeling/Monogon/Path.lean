import Mathlib.Data.List.Basic

/-! Go's `path.Clean` and `path.Join`, which `path/filepath` repeats on Unix, and
`filepath.Dir`, `filepath.Base` and `filepath.Rel`. A path is read element by element, an
element ending at a slash; empty and `.` elements are dropped and `..` cancels the element kept
before it. Paths are lists of characters. `child` is where an entry of a directory lies: the
paths `Join` gives for a plain name. -/

namespace Monogon.Path

def rooted (p : List Char) : Bool :=
  p.head? == some '/'

/-- What `Clean` does with one element `e`, `kept` holding the elements kept so far, last first. -/
def cleanElement (root : Bool) (kept : List (List Char)) (e : List Char) : List (List Char) :=
  if e = [] ∨ e = ['.'] then kept
  else if e = ['.', '.'] then
    match kept with
    | k :: rest => if k = ['.', '.'] then e :: kept else rest
    | [] => if root then [] else [e]
  else e :: kept

/-- One character of the scan: a slash ends the element read so far, held reversed. -/
def scanChar (root : Bool) (state : List (List Char) × List Char) (c : Char) :
    List (List Char) × List Char :=
  if c = '/' then (cleanElement root state.1 state.2.reverse, []) else (state.1, c :: state.2)

/-- The elements `Clean` keeps of `p`, last first. -/
def elements (root : Bool) (p : List Char) : List (List Char) :=
  let state := p.foldl (scanChar root) ([], [])
  cleanElement root state.1 state.2.reverse

/-- `path.Clean`. -/
def clean (p : List Char) : List Char :=
  let body := ['/'].intercalate (elements (rooted p) p).reverse
  if rooted p then '/' :: body else if body = [] then ['.'] else body

/-- `path.Join` with two elements. -/
def join (dir name : List Char) : List Char :=
  if dir ≠ [] then clean (dir ++ '/' :: name) else if name ≠ [] then clean name else []

example : clean "a/../../b//./c/".toList = "../b/c".toList := by decide

example : join "/data/volumes".toList "../../etc/shadow".toList = "/etc/shadow".toList := by decide

/-- `filepath.Dir`: the path up to its last slash, cleaned. -/
def dir (p : List Char) : List Char :=
  clean (p.reverse.dropWhile (· != '/')).reverse

/-- `filepath.Base`: the last element, `.` for the empty path and `/` for a path of slashes. -/
def base (p : List Char) : List Char :=
  if p = [] then ['.']
  else
    let stripped := p.reverse.dropWhile (· == '/')
    if stripped = [] then ['/'] else (stripped.takeWhile (· != '/')).reverse

/-- The elements two element lists start with in common, dropped from both. -/
def dropCommon : List (List Char) → List (List Char) → List (List Char) × List (List Char)
  | b :: bs, t :: ts => if b = t then dropCommon bs ts else (b :: bs, t :: ts)
  | bs, ts => (bs, ts)

/-- `filepath.Rel`; `none` for its error. -/
def rel (basepath targpath : List Char) : Option (List Char) :=
  if clean targpath = clean basepath then some ['.']
  else if rooted basepath ≠ rooted targpath then none
  else
    let targ := if clean targpath = ['.'] then [['.']]
      else (elements (rooted targpath) targpath).reverse
    let (bs, ts) := dropCommon (elements (rooted basepath) basepath).reverse targ
    if bs.head? = some ['.', '.'] then none
    else some (['/'].intercalate (List.replicate bs.length ['.', '.'] ++ ts))

example : dir "/w/src/a.c".toList = "/w/src".toList ∧ base "/w/src/a.c".toList = "a.c".toList ∧
    rel "/w/src".toList "/w/include/b.h".toList = some "../include/b.h".toList ∧
    rel "a".toList ".".toList = some "../.".toList ∧ rel ".".toList "a".toList = some "a".toList := by
  decide

/-- The path of the entry `name` of the directory whose clean path is `dir`. -/
def child (dir name : List Char) : List Char :=
  if dir = ['/'] then '/' :: name else if dir = ['.'] then name else dir ++ '/' :: name

/-- A name that is one element of a path and neither `.` nor `..`. -/
structure PlainName (name : List Char) : Prop where
  ne_nil : name ≠ []
  ne_dot : name ≠ ['.']
  ne_dotdot : name ≠ ['.', '.']
  no_slash : '/' ∉ name

/-- An element `Clean` keeps. -/
structure Element (e : List Char) : Prop where
  ne_nil : e ≠ []
  ne_dot : e ≠ ['.']
  no_slash : '/' ∉ e

theorem cleanElement_plain {root : Bool} {name : List Char} (plain : PlainName name)
    (kept : List (List Char)) : cleanElement root kept name = name :: kept := by
  simp [cleanElement, plain.ne_nil, plain.ne_dot, plain.ne_dotdot]

theorem cleanElement_element {root : Bool} {kept : List (List Char)} {e : List Char}
    (keptElements : ∀ k ∈ kept, Element k) (noSlash : '/' ∉ e) :
    ∀ k ∈ cleanElement root kept e, Element k := by
  unfold cleanElement
  by_cases skipped : e = [] ∨ e = ['.']
  · rw [if_pos skipped]
    exact keptElements
  rw [if_neg skipped]
  by_cases dotdot : e = ['.', '.']
  · rw [if_pos dotdot]
    subst dotdot
    have dotdotElement : Element ['.', '.'] := ⟨by simp, by simp, by simp⟩
    cases kept with
    | nil => cases root <;> simp [dotdotElement]
    | cons k rest =>
      dsimp only
      split_ifs
      · exact List.forall_mem_cons.mpr ⟨dotdotElement, keptElements⟩
      · exact fun k' member => keptElements k' (List.mem_cons_of_mem _ member)
  · rw [if_neg dotdot]
    push_neg at skipped
    exact List.forall_mem_cons.mpr ⟨⟨skipped.1, skipped.2, noSlash⟩, keptElements⟩

theorem foldl_scanChar_element {root : Bool} :
    ∀ (p : List Char) (state : List (List Char) × List Char),
      (∀ k ∈ state.1, Element k) → '/' ∉ state.2 →
      (∀ k ∈ (p.foldl (scanChar root) state).1, Element k) ∧
        '/' ∉ (p.foldl (scanChar root) state).2
  | [], _, keptElements, noSlash => ⟨keptElements, noSlash⟩
  | c :: p, (kept, current), keptElements, noSlash => by
    unfold List.foldl scanChar
    split_ifs with slash
    · exact foldl_scanChar_element p _
        (cleanElement_element keptElements (by simpa using noSlash)) (by simp)
    · exact foldl_scanChar_element p _ keptElements (by simp [Ne.symm slash, noSlash])

theorem elements_element (root : Bool) (p : List Char) : ∀ k ∈ elements root p, Element k :=
  have scanned := @foldl_scanChar_element root p ([], []) (by simp) (by simp)
  cleanElement_element scanned.1 (by simpa using scanned.2)

theorem foldl_scanChar_of_no_slash {root : Bool} :
    ∀ {name : List Char}, '/' ∉ name → ∀ (kept : List (List Char)) (current : List Char),
      name.foldl (scanChar root) (kept, current) = (kept, name.reverse ++ current)
  | [], _, _, _ => rfl
  | c :: name, noSlash, kept, current => by
    have slash : c ≠ '/' := fun same => noSlash (same ▸ List.mem_cons_self c name)
    simp only [List.foldl, scanChar, if_neg slash]
    rw [foldl_scanChar_of_no_slash (fun member => noSlash (List.mem_cons_of_mem c member))]
    simp

theorem elements_append_plain {root : Bool} {name : List Char} (plain : PlainName name)
    (dir : List Char) : elements root (dir ++ '/' :: name) = name :: elements root dir := by
  simp only [elements, List.foldl_append, List.foldl_cons, scanChar, if_pos,
    foldl_scanChar_of_no_slash plain.no_slash, List.append_nil, List.reverse_reverse,
    cleanElement_plain plain]

theorem rooted_append {dir : List Char} (nonempty : dir ≠ []) (rest : List Char) :
    rooted (dir ++ rest) = rooted dir := by
  cases dir with
  | nil => contradiction
  | cons c dir => rfl

theorem intercalate_element {es : List (List Char)} (nonempty : es ≠ [])
    (elementsOk : ∀ e ∈ es, Element e) :
    ['/'].intercalate es ≠ [] ∧ ['/'].intercalate es ≠ ['.'] ∧ ['/'].intercalate es ≠ ['/'] := by
  match es, nonempty with
  | [e], _ =>
    have ok := elementsOk e (List.mem_singleton_self e)
    simp only [List.intercalate, List.intersperse_single, List.flatten_cons, List.flatten_nil,
      List.append_nil]
    exact ⟨ok.ne_nil, ok.ne_dot, fun same => ok.no_slash (by simp [same])⟩
  | e :: f :: rest, _ =>
    have long : 2 ≤ (['/'].intercalate (e :: f :: rest)).length := by
      have := List.length_pos.mpr (elementsOk e (List.mem_cons_self e _)).ne_nil
      simp only [List.intercalate, List.intersperse_cons₂, List.flatten_cons, List.length_append,
        List.length_singleton]
      omega
    refine ⟨?_, ?_, ?_⟩ <;> intro same <;> simp [same] at long

theorem intercalate_append_singleton :
    ∀ {es : List (List Char)}, es ≠ [] → ∀ name : List Char,
      ['/'].intercalate (es ++ [name]) = ['/'].intercalate es ++ '/' :: name
  | [e], _, name => by simp [List.intercalate]
  | e :: f :: rest, _, name => by
    have later := @intercalate_append_singleton (f :: rest) (List.cons_ne_nil f rest) name
    simp only [List.intercalate, List.cons_append, List.intersperse_cons₂, List.flatten_cons] at later ⊢
    rw [later]
    simp

theorem elements_plain {root : Bool} {name : List Char} (plain : PlainName name) :
    elements root name = [name] := by
  simp [elements, foldl_scanChar_of_no_slash plain.no_slash, cleanElement_plain plain]

theorem rooted_plain {name : List Char} (plain : PlainName name) : rooted name = false := by
  cases name with
  | nil => exact absurd rfl plain.ne_nil
  | cons c name =>
    have : c ≠ '/' := fun same => plain.no_slash (by simp [same])
    simp [rooted, this]

theorem join_plain (dir : List Char) {name : List Char} (plain : PlainName name) :
    join dir name = child (clean dir) name := by
  by_cases empty : dir = []
  · subst empty
    have cleanName : clean name = name := by
      simp [clean, elements_plain plain, rooted_plain plain, List.intercalate, plain.ne_nil]
    have cleanEmpty : clean [] = ['.'] := by decide
    simp [join, plain.ne_nil, cleanName, cleanEmpty, child]
  have kept := elements_element (rooted dir) dir
  simp only [join, if_pos empty, clean, rooted_append empty, elements_append_plain plain,
    List.reverse_cons]
  generalize rooted dir = root at kept ⊢
  by_cases none : elements root dir = []
  · rw [none]
    cases root <;> simp [child, List.intercalate, plain.ne_nil]
  · have body := intercalate_element (List.reverse_ne_nil_iff.mpr none)
      (fun e member => kept e (List.mem_reverse.mp member))
    rw [intercalate_append_singleton (List.reverse_ne_nil_iff.mpr none)]
    cases root <;> simp [child, body.1, body.2.1, body.2.2]

/-! ## `filepath.Rel` and `filepath.Join` -/

theorem intercalate_cons_cons (x y : List Char) (rest : List (List Char)) :
    ['/'].intercalate (x :: y :: rest) = x ++ '/' :: ['/'].intercalate (y :: rest) := by
  simp [List.intercalate, List.intersperse_cons₂]

theorem foldl_scanChar_intercalate {root : Bool} :
    ∀ {parts : List (List Char)}, (∀ x ∈ parts, '/' ∉ x) → ∀ kept : List (List Char),
      cleanElement root ((['/'].intercalate parts).foldl (scanChar root) (kept, [])).1
          ((['/'].intercalate parts).foldl (scanChar root) (kept, [])).2.reverse =
        parts.foldl (cleanElement root) kept
  | [], _, kept => by simp [List.intercalate, cleanElement]
  | [x], noSlash, kept => by
    simp [List.intercalate, foldl_scanChar_of_no_slash (noSlash x (List.mem_singleton_self x))]
  | x :: y :: rest, noSlash, kept => by
    rw [intercalate_cons_cons, List.foldl_append,
      foldl_scanChar_of_no_slash (noSlash x (List.mem_cons_self x _)), List.foldl_cons, scanChar,
      if_pos rfl, List.append_nil, List.reverse_reverse, List.foldl_cons]
    exact foldl_scanChar_intercalate (fun z member => noSlash z (List.mem_cons_of_mem x member)) _

theorem elements_append_intercalate {root : Bool} {parts : List (List Char)}
    (noSlash : ∀ x ∈ parts, '/' ∉ x) (p : List Char) :
    elements root (p ++ '/' :: ['/'].intercalate parts) =
      parts.foldl (cleanElement root) (elements root p) := by
  rw [elements, List.foldl_append, List.foldl_cons, scanChar, if_pos rfl]
  exact foldl_scanChar_intercalate noSlash _

theorem cleanElement_ne_dotdot {kept : List (List Char)} (noDotdot : ['.', '.'] ∉ kept)
    (e : List Char) : ['.', '.'] ∉ cleanElement true kept e := by
  unfold cleanElement
  by_cases skipped : e = [] ∨ e = ['.']
  · rw [if_pos skipped]
    exact noDotdot
  rw [if_neg skipped]
  by_cases dotdot : e = ['.', '.']
  · rw [if_pos dotdot]
    match kept with
    | k :: rest =>
      have : k ≠ ['.', '.'] := fun same => noDotdot (same ▸ List.mem_cons_self k rest)
      simpa [this] using fun member => noDotdot (List.mem_cons_of_mem k member)
    | [] => simp
  · rw [if_neg dotdot]
    exact fun member => (List.mem_cons.mp member).elim (fun same => dotdot same.symm) noDotdot

theorem foldl_scanChar_ne_dotdot :
    ∀ (p : List Char) (state : List (List Char) × List Char), ['.', '.'] ∉ state.1 →
      ['.', '.'] ∉ (p.foldl (scanChar true) state).1
  | [], _, noDotdot => noDotdot
  | c :: p, (kept, current), noDotdot => by
    unfold List.foldl scanChar
    split_ifs
    · exact foldl_scanChar_ne_dotdot p _ (cleanElement_ne_dotdot noDotdot _)
    · exact foldl_scanChar_ne_dotdot p _ noDotdot

theorem elements_rooted_ne_dotdot (p : List Char) : ['.', '.'] ∉ elements true p :=
  cleanElement_ne_dotdot (foldl_scanChar_ne_dotdot p ([], []) (List.not_mem_nil _)) _

theorem elements_rooted_plain (p : List Char) : ∀ e ∈ elements true p, PlainName e :=
  fun e member =>
    have element := elements_element true p e member
    ⟨element.ne_nil, element.ne_dot, fun same => elements_rooted_ne_dotdot p (same ▸ member),
      element.no_slash⟩

theorem foldl_cleanElement_dotdot {root : Bool} :
    ∀ {kept : List (List Char)}, ['.', '.'] ∉ kept → ∀ rest : List (List Char),
      (List.replicate kept.length ['.', '.']).foldl (cleanElement root) (kept ++ rest) = rest
  | [], _, rest => rfl
  | k :: kept, noDotdot, rest => by
    have notDotdot : k ≠ ['.', '.'] := fun same => noDotdot (same ▸ List.mem_cons_self k kept)
    rw [List.length_cons, List.replicate_succ, List.foldl_cons, List.cons_append]
    simp only [cleanElement, if_neg (by decide : ¬(['.', '.'] = ([] : List Char) ∨ ['.', '.'] = ['.'])),
      if_true, if_neg notDotdot]
    exact foldl_cleanElement_dotdot (fun member => noDotdot (List.mem_cons_of_mem k member)) rest

theorem foldl_cleanElement_plain {root : Bool} :
    ∀ {names : List (List Char)}, (∀ name ∈ names, PlainName name) → ∀ kept : List (List Char),
      names.foldl (cleanElement root) kept = names.reverse ++ kept
  | [], _, kept => rfl
  | name :: names, plain, kept => by
    rw [List.foldl_cons, cleanElement_plain (plain name (List.mem_cons_self name names)),
      foldl_cleanElement_plain (fun n member => plain n (List.mem_cons_of_mem name member))]
    simp

theorem clean_rooted {p : List Char} (root : rooted p = true) :
    clean p = '/' :: ['/'].intercalate (elements true p).reverse := by
  simp [clean, root]

theorem dropCommon_spec : ∀ bs ts : List (List Char), ∃ common,
    bs = common ++ (dropCommon bs ts).1 ∧ ts = common ++ (dropCommon bs ts).2
  | b :: bs, t :: ts => by
    unfold dropCommon
    split_ifs with same
    · subst same
      obtain ⟨common, left, right⟩ := dropCommon_spec bs ts
      exact ⟨b :: common, congrArg (b :: ·) left, congrArg (b :: ·) right⟩
    · exact ⟨[], rfl, rfl⟩
  | [], ts => ⟨[], rfl, rfl⟩
  | b :: bs, [] => ⟨[], rfl, rfl⟩

theorem clean_eq_of_elements {p q : List Char} (rootP : rooted p = true) (rootQ : rooted q = true)
    (same : elements true p = elements true q) : clean p = clean q := by
  rw [clean_rooted rootP, clean_rooted rootQ, same]

theorem elements_climb {basepath targpath : List Char} {common bs ts : List (List Char)}
    (left : (elements true basepath).reverse = common ++ bs)
    (right : (elements true targpath).reverse = common ++ ts) :
    elements true (basepath ++ '/' :: ['/'].intercalate (List.replicate bs.length ['.', '.'] ++ ts)) =
      elements true targpath := by
  have inTarget : ∀ x ∈ ts, x ∈ elements true targpath := fun x member =>
    List.mem_reverse.mp (right ▸ List.mem_append_right common member)
  have noSlash : ∀ x ∈ List.replicate bs.length ['.', '.'] ++ ts, '/' ∉ x := by
    intro x member
    rcases List.mem_append.mp member with dotdot | later
    · rw [List.eq_of_mem_replicate dotdot]
      decide
    · exact (elements_element true targpath x (inTarget x later)).no_slash
  have baseElements : elements true basepath = bs.reverse ++ common.reverse := by
    rw [← List.reverse_reverse (elements true basepath), left, List.reverse_append]
  have kept : ['.', '.'] ∉ bs.reverse := fun member =>
    elements_rooted_ne_dotdot basepath (baseElements ▸ List.mem_append_left _ member)
  have plain : ∀ name ∈ ts, PlainName name := fun name member =>
    elements_rooted_plain targpath name (inTarget name member)
  rw [elements_append_intercalate noSlash, List.foldl_append, baseElements,
    ← List.length_reverse bs, foldl_cleanElement_dotdot kept, foldl_cleanElement_plain plain,
    ← List.reverse_append, ← right, List.reverse_reverse]

theorem join_rel {basepath targpath p : List Char} (baseRooted : rooted basepath = true)
    (related : rel basepath targpath = some p) : join basepath p = clean targpath := by
  have nonempty : basepath ≠ [] := fun empty => by simp [empty, rooted] at baseRooted
  have joinedRooted : rooted (basepath ++ '/' :: p) = true := by
    rw [rooted_append nonempty, baseRooted]
  rw [show join basepath p = clean (basepath ++ '/' :: p) by simp [join, nonempty]]
  unfold rel at related
  split_ifs at related with same differ dot
  · cases related
    rw [same]
    refine clean_eq_of_elements joinedRooted baseRooted ?_
    simpa [List.intercalate, cleanElement] using
      @elements_append_intercalate true [['.']] (by simp) basepath
  · have targRooted : rooted targpath = true := (not_not.mp differ) ▸ baseRooted
    simp [clean_rooted targRooted] at dot
  · have targRooted : rooted targpath = true := (not_not.mp differ) ▸ baseRooted
    dsimp only at related
    obtain ⟨common, left, right⟩ := dropCommon_spec (elements (rooted basepath) basepath).reverse
      (elements (rooted targpath) targpath).reverse
    generalize dropCommon _ _ = remaining at related left right
    obtain ⟨bs, ts⟩ := remaining
    dsimp only at related left right
    split_ifs at related
    cases related
    rw [baseRooted] at left
    rw [targRooted] at right
    exact clean_eq_of_elements joinedRooted targRooted (elements_climb left right)

/-! ## `filepath.Dir` and `filepath.Base` -/

theorem elements_append_slash (root : Bool) (d : List Char) :
    elements root (d ++ ['/']) = elements root d := by
  simp [elements, scanChar, cleanElement]

theorem elements_clean_rooted {p : List Char} (root : rooted p = true) :
    elements true (clean p) = elements true p := by
  have noSlash : ∀ e ∈ (elements true p).reverse, '/' ∉ e := fun e member =>
    (elements_element true p e (List.mem_reverse.mp member)).no_slash
  have plain : ∀ e ∈ (elements true p).reverse, PlainName e := fun e member =>
    elements_rooted_plain p e (List.mem_reverse.mp member)
  rw [clean_rooted root, ← List.nil_append ('/' :: _), elements_append_intercalate noSlash]
  simpa using foldl_cleanElement_plain plain []

theorem base_of_reverse {p name rest : List Char} (nonempty : name ≠ []) (noSlash : '/' ∉ name)
    (reversed : p.reverse = name.reverse ++ rest) (stop : rest.takeWhile (· != '/') = []) :
    base p = name := by
  obtain ⟨c, r, last⟩ := List.exists_cons_of_ne_nil (List.reverse_ne_nil_iff.mpr nonempty)
  have notSlash : ∀ a ∈ name.reverse, a ≠ '/' := fun a member same =>
    noSlash (List.mem_reverse.mp (same ▸ member))
  have kept : (name.reverse ++ rest).dropWhile (· == '/') = name.reverse ++ rest := by
    rw [last, List.cons_append, List.dropWhile_cons_of_neg]
    simpa using notSlash c (last ▸ List.mem_cons_self c r)
  have taken : (name.reverse ++ rest).takeWhile (· != '/') = name.reverse := by
    rw [List.takeWhile_append_of_pos (fun a member => by simpa using notSlash a member), stop,
      List.append_nil]
  have notNil : p ≠ [] := fun empty => by simp [empty, last] at reversed
  have stripped : name.reverse ++ rest ≠ [] := by simp [last]
  unfold base
  simp only [if_neg notNil, reversed, kept, if_neg stripped, taken, List.reverse_reverse]

theorem base_name {name : List Char} (nonempty : name ≠ []) (noSlash : '/' ∉ name) :
    base name = name :=
  base_of_reverse nonempty noSlash (List.append_nil _).symm rfl

theorem base_append_name (d : List Char) {name : List Char} (nonempty : name ≠ [])
    (noSlash : '/' ∉ name) : base (d ++ '/' :: name) = name :=
  @base_of_reverse _ name ('/' :: d.reverse) nonempty noSlash (by simp)
    (List.takeWhile_cons_of_neg (by simp))

theorem dir_append_name (d : List Char) {name : List Char} (noSlash : '/' ∉ name) :
    dir (d ++ '/' :: name) = clean (d ++ ['/']) := by
  have notSlash : ∀ a ∈ name.reverse, (a != '/') = true := fun a member =>
    bne_iff_ne.mpr fun same => noSlash (List.mem_reverse.mp (same ▸ member))
  simp [dir, List.dropWhile_append_of_pos notSlash]

theorem base_clean {z name : List Char} {rest : List (List Char)}
    (kept : elements (rooted z) z = name :: rest) : base (clean z) = name := by
  have element := elements_element (rooted z) z name (kept ▸ List.mem_cons_self name rest)
  unfold clean
  rw [kept, List.reverse_cons]
  generalize rooted z = root
  rcases eq_or_ne rest [] with empty | more
  · subst empty
    cases root
    · simp [List.intercalate, element.ne_nil, base_name element.ne_nil element.no_slash]
    · simpa [List.intercalate] using base_append_name [] element.ne_nil element.no_slash
  · rw [intercalate_append_singleton (List.reverse_ne_nil_iff.mpr more)]
    cases root
    · simp [base_append_name _ element.ne_nil element.no_slash]
    · exact base_append_name ('/' :: _) element.ne_nil element.no_slash

theorem elements_append_slashes (root : Bool) (d : List Char) (k : Nat) :
    elements root (d ++ List.replicate k '/') = elements root d := by
  induction k with
  | zero => simp
  | succ k ih => rw [List.replicate_succ', ← List.append_assoc, elements_append_slash, ih]

theorem base_spec {p : List Char} (plain : PlainName (base p)) :
    ∃ pre k, p = pre ++ base p ++ List.replicate k '/' ∧ (pre = [] ∨ ∃ pre', pre = pre' ++ ['/']) := by
  have notNil : p ≠ [] := fun empty => plain.ne_dot (by simp [base, empty])
  have notStripped : p.reverse.dropWhile (· == '/') ≠ [] := fun empty =>
    plain.no_slash (by simp [base, notNil, empty])
  have baseEq : base p = ((p.reverse.dropWhile (· == '/')).takeWhile (· != '/')).reverse := by
    simp [base, notNil, notStripped]
  have reversed : p.reverse = p.reverse.takeWhile (· == '/') ++
      ((p.reverse.dropWhile (· == '/')).takeWhile (· != '/') ++
        (p.reverse.dropWhile (· == '/')).dropWhile (· != '/')) := by
    rw [List.takeWhile_append_dropWhile, List.takeWhile_append_dropWhile]
  obtain ⟨k, slashes⟩ : ∃ k, p.reverse.takeWhile (· == '/') = List.replicate k '/' :=
    ⟨_, List.eq_replicate_iff.mpr ⟨rfl, fun b member => by simpa using List.mem_takeWhile_imp member⟩⟩
  have stop := List.head_dropWhile_not (· != '/') (p.reverse.dropWhile (· == '/'))
  rw [baseEq]
  rw [slashes] at reversed
  generalize (p.reverse.dropWhile (· == '/')).dropWhile (· != '/') = more at reversed stop
  refine ⟨more.reverse, k, ?_, ?_⟩
  · conv_lhs => rw [← List.reverse_reverse p, reversed]
    simp
  · cases more with
    | nil => exact .inl rfl
    | cons c m =>
      have slash : c = '/' := by simpa using stop (List.cons_ne_nil c m)
      exact .inr ⟨m.reverse, by simp [slash]⟩

theorem base_join {d p : List Char} (nonempty : d ≠ []) (plain : PlainName (base p)) :
    base (join d p) = base p := by
  obtain ⟨pre, k, split, slash⟩ := base_spec plain
  generalize base p = name at plain split ⊢
  subst split
  have kept : ∀ root, ∃ rest,
      elements root (d ++ '/' :: (pre ++ name ++ List.replicate k '/')) = name :: rest := by
    intro root
    rcases slash with rfl | ⟨pre, rfl⟩
    · refine ⟨elements root d, ?_⟩
      rw [← elements_append_plain plain, ← elements_append_slashes root (d ++ '/' :: name) k]
      simp
    · refine ⟨elements root (d ++ '/' :: pre), ?_⟩
      rw [← elements_append_plain plain,
        ← elements_append_slashes root (d ++ '/' :: pre ++ '/' :: name) k]
      simp
  obtain ⟨rest, last⟩ := kept (rooted (d ++ '/' :: (pre ++ name ++ List.replicate k '/')))
  rw [join, if_pos nonempty]
  exact base_clean last

theorem join_dir_base {q : List Char} (root : rooted q = true) (below : elements true q ≠ []) :
    join (dir (clean q)) (base (clean q)) = clean q := by
  obtain ⟨name, rest, kept⟩ := List.exists_cons_of_ne_nil below
  have plain := elements_rooted_plain q name (kept ▸ List.mem_cons_self name rest)
  obtain ⟨d, split, slashRooted⟩ :
      ∃ d, clean q = d ++ '/' :: name ∧ rooted (d ++ ['/']) = true := by
    rw [clean_rooted root, kept, List.reverse_cons]
    rcases eq_or_ne rest [] with empty | more
    · exact ⟨[], by simp [empty, List.intercalate], rfl⟩
    · refine ⟨'/' :: ['/'].intercalate rest.reverse, ?_, rfl⟩
      rw [intercalate_append_singleton (List.reverse_ne_nil_iff.mpr more)]
      rfl
  have dirRooted : rooted (clean (d ++ ['/'])) = true := by simp [clean_rooted slashRooted, rooted]
  have dirNonempty : clean (d ++ ['/']) ≠ [] := by simp [clean_rooted slashRooted]
  have joinedRooted : rooted (clean (d ++ ['/']) ++ '/' :: name) = true := by
    rw [rooted_append dirNonempty, dirRooted]
  calc join (dir (clean q)) (base (clean q))
      = clean (clean (d ++ ['/']) ++ '/' :: name) := by
        rw [split, dir_append_name d plain.no_slash, base_append_name d plain.ne_nil plain.no_slash,
          join, if_pos dirNonempty]
    _ = clean q := clean_eq_of_elements joinedRooted root <| calc
        elements true (clean (d ++ ['/']) ++ '/' :: name)
          = name :: elements true (clean (d ++ ['/'])) := elements_append_plain plain _
        _ = name :: elements true d := by
          rw [elements_clean_rooted slashRooted, elements_append_slash]
        _ = elements true (clean q) := by rw [split, elements_append_plain plain]
        _ = elements true q := elements_clean_rooted root

end Monogon.Path

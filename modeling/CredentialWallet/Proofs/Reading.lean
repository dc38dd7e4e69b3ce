import CredentialWallet.Proofs.Except
import CredentialWallet.Url.Parse
/-!
# Reading a text that goes on

A web address is read from the front: its scheme ends at the first colon and its host at the next slash
but those behind the colon. So a text with more behind it is read as it was, and what is added becomes
part of the path, which then ends in the last name that was added.
-/

namespace CredentialWallet

/-! ### Texts with more behind them -/

namespace Text

theorem dropWhile_append_cons {test : Char → Bool} {c : Char} (hc : test c = false)
    (before behind : List Char) :
    (before ++ c :: behind).dropWhile test = before.dropWhile test ++ c :: behind := by
  induction before with
  | nil => simp [hc]
  | cons d rest ih => by_cases hd : test d <;> simp [hd, ih]

theorem trimBoth_eq_dropWhile {test : Char → Bool} {cs : List Char}
    (hend : ∀ c, cs.getLast? = some c → test c = false) : trimBoth test cs = cs.dropWhile test := by
  rw [trimBoth]
  rcases hlast : (cs.dropWhile test).reverse with _ | ⟨last, others⟩
  · rw [List.reverse_eq_nil_iff.1 hlast]
    rfl
  · have hfront : cs.dropWhile test = others.reverse ++ [last] := by
      rw [← List.reverse_reverse (cs.dropWhile test), hlast, List.reverse_cons]
    have hcs : cs.getLast? = some last := by
      rw [← List.takeWhile_append_dropWhile (l := cs) (p := test), hfront, ← List.append_assoc,
        List.getLast?_concat]
    rw [List.dropWhile_cons_of_neg (by simp [hend last hcs]), ← hlast, List.reverse_reverse]

theorem exists_dropWhile_eq_trimBoth_append (test : Char → Bool) (cs : List Char) :
    ∃ trimmed, (∀ c ∈ trimmed, test c = true) ∧ cs.dropWhile test = trimBoth test cs ++ trimmed := by
  refine ⟨((cs.dropWhile test).reverse.takeWhile test).reverse, fun c hc => ?_, ?_⟩
  · exact List.all_eq_true.1 List.all_takeWhile c (List.mem_reverse.1 hc)
  · rw [trimBoth, ← List.reverse_append, List.takeWhile_append_dropWhile, List.reverse_reverse]

/-- A text that begins and ends in what is not trimmed keeps all of itself, whatever follows. -/
theorem exists_trimBoth_append {test : Char → Bool} {front : List Char}
    (hfirst : ∀ c, front.head? = some c → test c = false)
    (hlast : ∀ c, front.getLast? = some c → test c = false) (hne : front ≠ []) (behind : List Char) :
    ∃ rest, rest <+: behind ∧ trimBoth test (front ++ behind) = front ++ rest := by
  obtain ⟨trimmed, htrimmed, hfront⟩ := exists_dropWhile_eq_trimBoth_append test (front ++ behind)
  have hdrop : (front ++ behind).dropWhile test = front ++ behind := by
    obtain ⟨c, others, rfl⟩ := List.exists_cons_of_ne_nil hne
    rw [List.cons_append, List.dropWhile_cons_of_neg (by simp [hfirst c rfl])]
  rw [hdrop] at hfront
  rcases List.append_eq_append_iff.1 hfront with ⟨rest, htrim, rfl⟩ | ⟨last, hsplit, rfl⟩
  · exact ⟨rest, List.prefix_append rest trimmed, htrim⟩
  · rcases List.eq_nil_or_concat last with rfl | ⟨others, c, rfl⟩
    · exact ⟨[], List.nil_prefix, by simpa using hsplit.symm⟩
    · have hc : test c = true := htrimmed c (by simp)
      rw [hlast c (by rw [hsplit]; simp)] at hc
      cases hc

theorem trimBoth_append {test : Char → Bool} {behind : List Char} (hne : behind ≠ [])
    (hbehind : ∀ c ∈ behind, test c = false) (before : List Char) :
    trimBoth test (before ++ behind) = before.dropWhile test ++ behind := by
  have hend : ∀ c, (before ++ behind).getLast? = some c → test c = false := by
    intro c hc
    rw [List.getLast?_append, List.getLast?_eq_some_getLast hne, Option.some_or] at hc
    obtain rfl := Option.some.inj hc
    exact hbehind _ (List.getLast_mem hne)
  rw [trimBoth_eq_dropWhile hend]
  obtain ⟨c, rest, rfl⟩ := List.exists_cons_of_ne_nil hne
  exact dropWhile_append_cons (hbehind c List.mem_cons_self) before rest

end Text

namespace Url

theorem splitBefore_append_cons {stops : Char → Bool} {c : Char} (hc : stops c = true)
    (before behind : List Char) :
    splitBefore stops (before ++ c :: behind) =
      ((splitBefore stops before).1, (splitBefore stops before).2 ++ c :: behind) := by
  induction before with
  | nil => simp [splitBefore, hc]
  | cons d rest ih =>
    simp only [splitBefore, Prod.mk.injEq] at ih
    by_cases hd : stops d <;> simp [splitBefore, hd, ih]

theorem splitBefore_eq_self {stops : Char → Bool} {cs : List Char} (h : ∀ c ∈ cs, stops c = false) :
    splitBefore stops cs = (cs, []) := by
  induction cs with
  | nil => rfl
  | cons c rest ih =>
    have hrest := ih fun d hd => h d (List.mem_cons_of_mem c hd)
    simp only [splitBefore, Prod.mk.injEq] at hrest
    simp [splitBefore, h c List.mem_cons_self, hrest]

theorem splitScheme_eq_none {cs : List Char} (h : ':' ∉ cs) : splitScheme cs = none := by
  have hstop : ∀ c ∈ cs, decide (c = ':') = false := fun c hc =>
    decide_eq_false fun hcolon => h (hcolon ▸ hc)
  rw [splitScheme, splitBefore_eq_self hstop]
  split <;> simp_all

theorem splitScheme_append_of_mem {cs : List Char} (h : ':' ∈ cs) (behind : List Char) :
    splitScheme (cs ++ behind) = (splitScheme cs).map fun parts => (parts.1, parts.2 ++ behind) := by
  obtain ⟨before, rest, rfl⟩ := List.append_of_mem h
  have hcolon : decide (':' = ':') = true := by decide
  rw [List.append_assoc, List.cons_append, splitScheme, splitScheme,
    splitBefore_append_cons hcolon, splitBefore_append_cons hcolon]
  rcases Path.kept (splitBefore (· = ':') before).1 with _ | ⟨first, others⟩
  · rfl
  rcases (splitBefore (· = ':') before).2 with _ | ⟨d, skipped⟩ <;>
  · simp only [List.nil_append, List.cons_append]
    split <;> simp

theorem splitScheme_append {behind : List Char} (hbehind : ':' ∉ behind) (cs : List Char) :
    splitScheme (cs ++ behind) = (splitScheme cs).map fun parts => (parts.1, parts.2 ++ behind) := by
  by_cases hcs : ':' ∈ cs
  · exact splitScheme_append_of_mem hcs behind
  · rw [splitScheme_eq_none hcs, splitScheme_eq_none (by simp [hcs, hbehind])]
    rfl

theorem mem_of_splitScheme {cs rest : List Char} {scheme : String}
    (h : splitScheme cs = some (scheme, rest)) {c : Char} (hc : c ∈ rest) : c ∈ cs := by
  rw [splitScheme] at h
  split at h
  · rename_i hbehind
    split at h
    · obtain ⟨rfl, rfl⟩ := h
      have hmem : c ∈ (splitBefore (· = ':') cs).2 := by
        rw [hbehind]
        exact List.mem_cons_of_mem _ hc
      exact (List.dropWhile_suffix _).subset hmem
    · cases h
  · cases h

/-! ### Web addresses -/

/-- Where the host of a web address is, and its path behind that. -/
def splitPlace (rest : List Char) : List Char × List Char :=
  splitBefore (isSlash .special) ((Path.kept rest).dropWhile (isSlash .special))

/-- A web address without marks is its authority and its path. -/
theorem parse_of_special {raw scheme : String} {rest : List Char}
    (hsplit : splitScheme (Text.trimBoth (·.toNat ≤ 32) raw.toList) = some (scheme, rest))
    (hkind : schemeKind scheme = .special) (hmarks : ∀ c ∈ rest, c ≠ '?' ∧ c ≠ '#') :
    parse raw = (Authority.parse scheme (splitPlace rest).2.isEmpty (splitPlace rest).1).map fun a => {
      scheme
      authority := some a.1
      route := .segments (pathBehind .special (splitPlace rest).2)
      query := none
      fragment := none } := by
  have hfragment : splitBefore (· = '#') rest = (rest, []) :=
    splitBefore_eq_self fun c hc => decide_eq_false (hmarks c hc).2
  have hquery : splitBefore (· = '?') rest = (rest, []) :=
    splitBefore_eq_self fun c hc => decide_eq_false (hmarks c hc).1
  rw [parse]
  simp only [hsplit, hfragment, hquery, parseBody, hkind, List.isEmpty_nil, Bool.true_and, splitPlace]
  rcases Authority.parse scheme _ _ with e | a <;> rfl

theorem parse_of_colon_notMem {raw : String} (h : ':' ∉ raw.toList) : parse raw = .error .relative := by
  have htrimmed : ':' ∉ Text.trimBoth (·.toNat ≤ 32) raw.toList := by
    intro hmem
    rw [Text.trimBoth, List.mem_reverse] at hmem
    have hfront := List.mem_reverse.1 ((List.dropWhile_suffix _).subset hmem)
    exact h ((List.dropWhile_suffix _).subset hfront)
  rw [parse, splitScheme_eq_none htrimmed]

theorem exists_splitScheme_of_parse {raw : String} {u : Url} (h : parse raw = .ok u) :
    ∃ rest, splitScheme (Text.trimBoth (·.toNat ≤ 32) raw.toList) = some (u.scheme, rest) := by
  rw [parse] at h
  dsimp only at h
  split at h
  · cases h
  · rename_i scheme rest hsplit
    obtain ⟨found, _, hu⟩ := bind_eq_ok_iff.1 h
    obtain rfl := Except.ok.inj hu
    exact ⟨rest, hsplit⟩

section

variable {scheme : String} {ended : Bool} {cs : List Char} {a : Authority × List Char}

theorem Authority.host_ne_nil (hkind : schemeKind scheme = .special)
    (h : parse scheme ended cs = .ok a) : ((splitUserInfo cs).getD ([], cs)).2 ≠ [] := by
  intro hhost
  have hknown : Scheme.Kind.special.isKnown = true := rfl
  simp only [parse, hkind, hknown, if_true, hhost, splitHost, Host.parse] at h
  split at h <;> cases h

theorem Authority.ne_nil (hkind : schemeKind scheme = .special)
    (h : parse scheme ended cs = .ok a) : cs ≠ [] := by
  rintro rfl
  exact host_ne_nil hkind h rfl

theorem Authority.parse_of_ended (hkind : schemeKind scheme = .special)
    (h : parse scheme ended cs = .ok a) (again : Bool) : parse scheme again cs = .ok a := by
  have hguard : ((splitUserInfo cs).getD ([], cs)).2.isEmpty = false := by
    simpa using host_ne_nil hkind h
  simp only [parse, hguard, Bool.and_false, Bool.false_and] at h ⊢
  exact h

end

/-! ### Paths that go on -/

theorem Path.appendAll_concat (kind : Scheme.Kind) (escaped : Char → Bool) (path : List Segment)
    (parts : List (List Char)) (last : List Char) :
    appendAll kind escaped path (parts ++ [last]) =
      appendRaw kind escaped (parts.foldl (fun path cs => appendRaw kind escaped path false cs) path)
        true last := by
  induction parts generalizing path with
  | nil => rfl
  | cons cs rest ih =>
    rw [List.foldl_cons, ← ih]
    cases rest <;> rfl

/-- A name that stands for itself wherever it is part of a URL. -/
structure IsName (name : List Char) : Prop where
  ne_nil : name ≠ []
  visible : ∀ c ∈ name, 32 < c.toNat
  noMark : ∀ c ∈ name, c ≠ ':' ∧ c ≠ '?' ∧ c ≠ '#'
  noSlash : ∀ c ∈ name, isSlash .special c = false
  plain : encode escapedInPath name = name
  singleDot : isSingleDot name = false
  doubleDot : isDoubleDot name = false
  noDrive : beginsWithDrive name = false

instance (name : List Char) : Decidable (IsName name) :=
  decidable_of_iff
    (name ≠ [] ∧
      (name.all fun c => decide (32 < c.toNat ∧ c ≠ ':' ∧ c ≠ '?' ∧ c ≠ '#' ∧ isSlash .special c = false)) ∧
      encode escapedInPath name = name ∧ isSingleDot name = false ∧ isDoubleDot name = false ∧
      beginsWithDrive name = false)
    ⟨fun ⟨hne, hall, hplain, hdot, hdots, hdrive⟩ =>
      have each := fun c hc => of_decide_eq_true (List.all_eq_true.1 hall c hc)
      ⟨hne, fun c hc => (each c hc).1,
        fun c hc => ⟨(each c hc).2.1, (each c hc).2.2.1, (each c hc).2.2.2.1⟩,
        fun c hc => (each c hc).2.2.2.2, hplain, hdot, hdots, hdrive⟩,
    fun h => ⟨h.ne_nil, List.all_eq_true.2 fun c hc => decide_eq_true ⟨h.visible c hc, (h.noMark c hc).1,
        (h.noMark c hc).2.1, (h.noMark c hc).2.2, h.noSlash c hc⟩,
      h.plain, h.singleDot, h.doubleDot, h.noDrive⟩⟩

theorem Path.kept_eq_self {cs : List Char} (h : ∀ c ∈ cs, 32 < c.toNat) : Path.kept cs = cs := by
  refine List.filter_eq_self.2 fun c hc => ?_
  have hvisible := h c hc
  simp only [isDropped, Bool.not_eq_true', Bool.or_eq_false_iff, decide_eq_false_iff_not]
  refine ⟨⟨?_, ?_⟩, ?_⟩ <;>
  · rintro rfl
    exact absurd hvisible (by decide)

variable {name : List Char}

theorem IsName.visible_ne_colon (h : IsName name) : ∀ c ∈ name, 32 < c.toNat ∧ c ≠ ':' := fun c hc =>
  ⟨h.visible c hc, (h.noMark c hc).1⟩

theorem IsName.appendRaw (h : IsName name) (path : List Segment) :
    Path.appendRaw .special escapedInPath path true name = path ++ [name] := by
  simp [Path.appendRaw, Path.append, Path.kept_eq_self h.visible, h.plain, h.singleDot, h.doubleDot]

theorem IsName.segments (h : IsName name) : parseSegments .special name = [name] := by
  rw [parseSegments, Text.splitAt_eq_singleton h.noSlash, Path.appendAll, h.appendRaw]
  rfl

theorem exists_segments_behind (before : List Char) :
    ∃ parent, ∀ {name : List Char}, IsName name →
      parseSegments .special (before ++ '/' :: name) = parent ++ [name] := by
  have hslash : isSlash .special '/' = true := by decide
  refine ⟨(Text.splitAt (isSlash .special) before).foldl
    (fun path cs => Path.appendRaw .special escapedInPath path false cs) [], fun h => ?_⟩
  rw [parseSegments, Text.splitAt_append_cons hslash, Text.splitAt_eq_singleton h.noSlash,
    Path.appendAll_concat, h.appendRaw]

/-- A path that goes on with a name ends in it. -/
theorem exists_pathBehind (before : List Char) :
    ∃ parent, ∀ {name : List Char}, IsName name →
      pathBehind .special (before ++ '/' :: name) = parent ++ [name] := by
  have hslash : isSlash .special '/' = true := by decide
  have hkept : Path.isDropped '/' = false := by decide
  rcases hfirst : before.dropWhile Path.isDropped with _ | ⟨c, rest⟩
  · refine ⟨[], fun {name} h => ?_⟩
    rw [pathBehind, Path.firstKept?, Text.dropWhile_append_cons hkept, hfirst]
    simp only [List.nil_append, hslash, if_true]
    exact h.segments
  · obtain ⟨inside, hinside⟩ := exists_segments_behind rest
    obtain ⟨whole, hwhole⟩ := exists_segments_behind before
    refine ⟨if isSlash .special c then inside else whole, fun {name} h => ?_⟩
    rw [pathBehind, Path.firstKept?, Text.dropWhile_append_cons hkept, hfirst]
    simp only [List.cons_append]
    split
    · exact hinside h
    · exact hwhole h

end Url

end CredentialWallet

import WasmTrace.Proofs.Legible
import WasmTrace.Proofs.Prescription

/-!
# Lines are unambiguous

Names of the binary are shown as they are, so a name may look like the rest of the line.  Still a
line tells what it shows: at most one argument of a line can hold anything, and what follows it can
be read from the end of the line.  The one exception is an import, with two names.

The main statement is `Kind.arguments_eq_iff`: two events of a kind have the same text after the
name exactly if they agree in what the kind shows.  What a kind shows is written down by what it
leaves out, `Prescribed.hidden` and `Prescribed.told`.  Lines that hold lists are read back entry by
entry in `Event.list_lines`.
-/

namespace WasmTrace

open Bytes (entries ofText)
open Prescribed (number separated)

namespace Prescribed

/-- The arguments that no line of a kind shows, by name. -/
def hidden : Kind → List String
  | .onImportFunc | .onImportTable | .onImportMemory | .onImportGlobal
  | .onImportEvent => ["module", "field"]
  | .onSimdLaneOpExpr | .onSimdShuffleOpExpr => ["opcode"]
  | .onSymbol => ["symbol"]
  | .onDataSymbol => ["index", "segment", "offset", "size"]
  | .onFunctionSymbol | .onGlobalSymbol | .onEventSymbol | .onSectionSymbol => ["index"]
  | _ => []

/-- What the lines of a kind tell of an argument that they show: all of it, except that limits do
not tell sharing, opcodes do not tell their space, the data of a segment tells its length only, and
a type outside of the signature of a block does not tell an index. -/
def told (k : Kind) : (t : ArgType) → t.Value → Field
  | .limits, l => .sizes l.initial l.max?
  | .opcode, o => .instruction o.mnemonic o.code
  | .bytes, data => if k = .onDataSegmentData then .length data.length else .whole .bytes data
  | .valType, type =>
    if k ∈ [.onBlockExpr, .onIfExpr, .onLoopExpr, .onTryExpr] then .whole .valType type
    else .primitive type.primitive?
  | t, value => .whole t value

/-- What the lines of a kind tell of all arguments that they show, in the order of the arguments. -/
def shown (k : Kind) : {sig : Signature} → Args sig → List Field
  | [], .nil => []
  | (name, t) :: _, .cons value rest =>
    if name ∈ hidden k then shown k rest else told k t value :: shown k rest

end Prescribed

/-! ## Layouts -/

/-- What can stand in the place of a part of a layout. -/
def Segment.part {sig : Signature} : Segment sig → Part
  | .text s => .fixed (ofText s)
  | .field _ style => style.part

namespace Layout

variable {sig : Signature}

/-- The shape of the texts of a layout. -/
def shape (layout : Layout sig) : Shape := layout.map Segment.part

/-- What a layout tells of the arguments, field by field. -/
def fields (layout : Layout sig) (args : Args sig) : List Field :=
  layout.filterMap fun
    | .text _ => none
    | .field x style => some (style.field (args.get x))

/-- The texts of a layout have its shape. -/
lemma fits_render (layout : Layout sig) (args : Args sig) :
    layout.shape.Fits (Layout.render layout args) := by
  induction layout with
  | nil => exact .nil
  | cons segment layout ih =>
    refine .cons ?_ ih
    cases segment with
    | text s => exact rfl
    | field x style => exact style.fits_render (args.get x)

/-- Two texts of a layout are alike part by part exactly if the fields are. -/
lemma render_eq_iff (layout : Layout sig) (a b : Args sig) :
    Layout.render layout a = Layout.render layout b ↔
      Layout.fields layout a = Layout.fields layout b := by
  induction layout with
  | nil => exact iff_of_true rfl rfl
  | cons segment layout ih =>
    have hcons : ∀ args : Args sig, Layout.render (segment :: layout) args =
        segment.render args :: Layout.render layout args := fun _ => rfl
    rw [hcons, hcons, List.cons.injEq]
    cases segment with
    | text s => exact (and_iff_right rfl).trans ih
    | field x style =>
      have hfields : ∀ args : Args sig, Layout.fields (.field x style :: layout) args =
          style.field (args.get x) :: Layout.fields layout args := fun _ => rfl
      rw [hfields, hfields, List.cons.injEq]
      exact and_congr (style.render_eq_iff _ _) ih

/-- **A layout that can be taken apart tells its fields**, and nothing else. -/
theorem flatten_render_eq_iff {layout : Layout sig} (h : layout.shape.decodable = true)
    (a b : Args sig) :
    (layout.render a).flatten = (layout.render b).flatten ↔ layout.fields a = layout.fields b := by
  rw [← render_eq_iff]
  exact ⟨Shape.eq_of_flatten_eq h (layout.fits_render a) (layout.fits_render b), congrArg _⟩

end Layout

/-! ## Kinds -/

namespace Kind

/-- The lines of every kind but one can be taken apart. -/
lemma decodable_shape (k : Kind) (h : k ≠ .onImport) : k.layout.shape.decodable = true := by
  revert k
  refine forall_of_forall_mem_all ?_
  decide +kernel

/-- The fields of the layout of a kind are what the kind shows, up to order and repetition. -/
lemma fields_layout_eq_iff (k : Kind) (h : k.role ≠ .silent) (a b : Args k.signature) :
    k.layout.fields a = k.layout.fields b ↔ Prescribed.shown k a = Prescribed.shown k b := by
  have hswap : ∀ {x y x' y' : Field} {l l' : List Field},
      x :: y :: l = x' :: y' :: l' ↔ y :: x :: l = y' :: x' :: l' := by
    intro x y x' y' l l'
    rw [List.cons.injEq, List.cons.injEq, List.cons.injEq, List.cons.injEq]
    exact and_left_comm
  have hrepeat : ∀ {x y x' y' : Field} {l l' : List Field}, (y = y' → x = x') →
      (x :: y :: l = x' :: y' :: l' ↔ y :: l = y' :: l') := by
    intro x y x' y' l l' hxy
    rw [List.cons.injEq, List.cons.injEq]
    exact and_iff_right_of_imp fun hy => hxy hy.1
  have hwhole : ∀ {t : ArgType} {v w : t.Value} (f : t.Value → Field),
      Field.whole t v = Field.whole t w → f v = f w := by
    intro t v w f hvw
    exact congrArg f (Field.whole_inj.mp hvw)
  cases k with
  -- shown in another order
  | beginCustomSection =>
    match a, b with
    | .cons _ (.cons _ .nil), .cons _ (.cons _ .nil) => exact hswap
  | onDataSymbol =>
    match a, b with
    | .cons _ (.cons _ (.cons _ (.cons _ (.cons _ (.cons _ .nil))))),
      .cons _ (.cons _ (.cons _ (.cons _ (.cons _ (.cons _ .nil))))) => exact hswap
  | onFunctionSymbol | onGlobalSymbol | onEventSymbol =>
    match a, b with
    | .cons _ (.cons _ (.cons _ (.cons _ .nil))),
      .cons _ (.cons _ (.cons _ (.cons _ .nil))) => exact hswap
  | onInitFunction =>
    match a, b with
    | .cons _ (.cons _ .nil), .cons _ (.cons _ .nil) => exact hswap
  -- shown in two styles
  | onBrTableExpr =>
    match a, b with
    | .cons _ (.cons _ .nil), .cons _ (.cons _ .nil) =>
      exact hrepeat (hwhole (Style.field .indexCount))
  | onF32ConstExpr =>
    match a, b with
    | .cons _ .nil, .cons _ .nil => exact hrepeat (hwhole (Style.field .float))
  | onF64ConstExpr =>
    match a, b with
    | .cons _ .nil, .cons _ .nil => exact hrepeat (hwhole (Style.field .wideFloat))
  | onI32ConstExpr =>
    match a, b with
    | .cons _ .nil, .cons _ .nil => exact hrepeat (hwhole (Style.field .decimal))
  | onI64ConstExpr =>
    match a, b with
    | .cons _ .nil, .cons _ .nil => exact hrepeat (hwhole (Style.field .wideDecimal))
  | onInitExprF32ConstExpr =>
    match a, b with
    | .cons _ (.cons _ .nil), .cons _ (.cons _ .nil) =>
      exact List.cons_eq_cons.trans ((and_congr_right fun _ =>
        hrepeat (hwhole (Style.field .float))).trans List.cons_eq_cons.symm)
  | onInitExprF64ConstExpr =>
    match a, b with
    | .cons _ (.cons _ .nil), .cons _ (.cons _ .nil) =>
      exact List.cons_eq_cons.trans ((and_congr_right fun _ =>
        hrepeat (hwhole (Style.field .wideFloat))).trans List.cons_eq_cons.symm)
  -- shown one after the other, or not at all
  | _ =>
    rcases a with _ | ⟨_, _ | ⟨_, _ | ⟨_, _ | ⟨_, _ | ⟨_, _ | ⟨_, _ | _⟩⟩⟩⟩⟩⟩
    rcases b with _ | ⟨_, _ | ⟨_, _ | ⟨_, _ | ⟨_, _ | ⟨_, _ | ⟨_, _ | _⟩⟩⟩⟩⟩⟩
    first
    | exact Iff.rfl
    | exact absurd rfl h

/-- **The text after the name of an event is unambiguous**: two events of a kind have the same text
exactly if they agree in what the kind shows.  Names and mnemonics are arbitrary, so they may hold
whatever follows them in the line. -/
theorem arguments_eq_iff (k : Kind) (hrole : k.role ≠ .silent) (himport : k ≠ .onImport)
    (a b : Args k.signature) :
    (Layout.render k.layout a).flatten = (Layout.render k.layout b).flatten ↔
      Prescribed.shown k a = Prescribed.shown k b :=
  (Layout.flatten_render_eq_iff (k.decodable_shape himport) a b).trans
    (k.fields_layout_eq_iff hrole a b)

/-- The name of a symbol may look like the rest of the line: the text still tells where the name
ends.  It does not tell the index of the symbol. -/
theorem function_symbol_arguments :
    let text (index flags : UInt32) (name : String) (function : UInt32) : Bytes :=
      (Layout.render Kind.onFunctionSymbol.layout
        (.cons index (.cons flags (.cons (ofText name) (.cons function .nil))))).flatten
    onFunctionSymbol.role ≠ .silent ∧ onFunctionSymbol ≠ .onImport ∧
      text 1 2 "f flags: 0x0 index: 3)" 4 = text 5 2 "f flags: 0x0 index: 3)" 4 ∧
      text 1 2 "f flags: 0x0 index: 3)" 4 ≠ text 1 0 "f" 3 := by
  have hrole : onFunctionSymbol.role ≠ .silent := by decide
  have himport : onFunctionSymbol ≠ .onImport := by decide
  refine ⟨hrole, himport, (arguments_eq_iff _ hrole himport _ _).mpr rfl, fun h => ?_⟩
  have hshown := (arguments_eq_iff _ hrole himport _ _).mp h
  have hflags : (2 : UInt32) = 0 := Field.whole_inj.mp (List.cons.inj hshown).1
  exact absurd hflags (by decide)

/-- The line of an import has two names, and it does not tell where the first one ends. -/
example :
    let text (module field : String) : Bytes :=
      (Layout.render Kind.onImport.layout
        (.cons 0 (.cons (ofText module) (.cons (ofText field) .nil)))).flatten
    text "a" "b\", field: \"c" = text "a\", field: \"b" "c" := by
  decide +kernel

end Kind

/-! ## Lines with lists -/

namespace Event

/-- Two lines of a kind differ in the text after the name. -/
lemma line_eq_iff {k : Kind} (himport : k ≠ .onImport) (a b : Args k.signature) :
    (line ⟨k, a⟩).flatten = (line ⟨k, b⟩).flatten ↔ k.layout.fields a = k.layout.fields b := by
  rw [← Layout.flatten_render_eq_iff (k.decodable_shape himport), Kind.flatten_render_layout,
    Kind.flatten_render_layout, flatten_line, flatten_line, List.append_left_inj,
    List.append_right_inj]

/-- What stands between the brackets of a list of indices: the entries are the numbers of the list,
and no byte is that of a closing bracket. -/
lemma entries_indices (ns : List UInt32) :
    entries (separated ", " (ns.map fun n => number n.toNat)) = ns.map (fun n => number n.toNat) ∧
      ']'.toUInt8 ∉ separated ", " (ns.map fun n => number n.toNat) := by
  constructor
  · refine entries_separated fun item hitem => ?_
    obtain ⟨n, -, rfl⟩ := List.mem_map.mp hitem
    exact (Numeral.item_decimal n.toNat).entry
  · intro hmem
    rcases mem_separated hmem with hseparator | ⟨item, hitem, hb⟩
    · exact absurd hseparator (by decide)
    · obtain ⟨n, -, rfl⟩ := List.mem_map.mp hitem
      have hchar := Bytes.mem_toList_of_mem_ofText (by decide) hb
      rw [Numeral.decimal, String.toList_ofList] at hchar
      exact absurd (Nat.isDigit_of_mem_toDigits (by decide) (by decide) hchar) (by decide)

/-- **Lines with lists can be read back**, whatever the lists are.  The line of a table of branches
begins with the number of entries between the brackets that follow. -/
theorem list_lines :
    (∀ (i j : UInt32) (ps qs rs ss : List ValType),
      (line ⟨.onType, .cons i (.cons ps (.cons rs .nil))⟩).flatten =
          (line ⟨.onType, .cons j (.cons qs (.cons ss .nil))⟩).flatten ↔
        i = j ∧ ps = qs ∧ rs = ss) ∧
    (∀ (ds es : List UInt32) (x y : UInt32),
      (line ⟨.onBrTableExpr, .cons ds (.cons x .nil)⟩).flatten =
          (line ⟨.onBrTableExpr, .cons es (.cons y .nil)⟩).flatten ↔
        ds = es ∧ x = y) ∧
    (∀ (ds : List UInt32) (x : UInt32), ∃ inside : Bytes,
      (line ⟨.onBrTableExpr, .cons ds (.cons x .nil)⟩).flatten =
          ofText "OnBrTableExpr(num_targets: " ++ number (entries inside).length ++
            ofText ", depths: [" ++ inside ++ ofText "], default: " ++ number x.toNat ++
            ofText ")\n" ∧
        entries inside = ds.map (fun n => number n.toNat) ∧ ']'.toUInt8 ∉ inside) := by
  refine ⟨?_, ?_, ?_⟩
  · intro i j ps qs rs ss
    have hfields : ∀ (i : UInt32) (ps rs : List ValType),
        Layout.fields Kind.onType.layout (.cons i (.cons ps (.cons rs .nil))) =
          [.whole .u32 i, .whole .valTypes ps, .whole .valTypes rs] := fun _ _ _ => rfl
    refine (line_eq_iff (k := .onType) (by decide) _ _).trans ?_
    rw [hfields, hfields, List.cons.injEq, List.cons.injEq, List.cons.injEq]
    exact and_congr Field.whole_inj
      (and_congr Field.whole_inj ((and_iff_left rfl).trans Field.whole_inj))
  · intro ds es x y
    have hfields : ∀ (ds : List UInt32) (x : UInt32),
        Layout.fields Kind.onBrTableExpr.layout (.cons ds (.cons x .nil)) =
          [.length ds.length, .whole .indices ds, .whole .u32 x] := fun _ _ => rfl
    refine (line_eq_iff (k := .onBrTableExpr) (by decide) _ _).trans ?_
    rw [hfields, hfields]
    constructor
    · intro h
      injection h with _ h
      injection h with hds h
      injection h with hx
      exact ⟨Field.whole_inj.mp hds, Field.whole_inj.mp hx⟩
    · rintro ⟨rfl, rfl⟩
      rfl
  · intro ds x
    obtain ⟨hentries, hbracket⟩ := entries_indices ds
    refine ⟨separated ", " (ds.map fun n : UInt32 => number n.toNat), ?_, hentries, hbracket⟩
    have hline : (line ⟨.onBrTableExpr, .cons ds (.cons x .nil)⟩).flatten =
        ofText "OnBrTableExpr" ++
          Prescribed.tuple [Prescribed.field "num_targets" (number ds.length),
            Prescribed.field "depths" (Prescribed.list (ds.map fun n => number n.toNat)),
            Prescribed.field "default" (number x.toNat)] ++ [Bytes.newline] := flatten_line _
    have hnewline : [Bytes.newline] = ofText "\n" := by decide
    have hsingleton : ∀ value : Bytes, separated ", " [value] = value := fun _ => rfl
    rw [hentries, List.length_map, hline, hnewline]
    simp only [Prescribed.tuple, Prescribed.list, Prescribed.field, Prescribed.separated_cons_cons,
      hsingleton]
    -- fixed texts are cut differently on the two sides, so they are compared letter by letter
    simp only [ofText, String.reduceToList, List.flatMap_cons, List.flatMap_nil,
      List.append_assoc, List.append_nil]

end Event

end WasmTrace

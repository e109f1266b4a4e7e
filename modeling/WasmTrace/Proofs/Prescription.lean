import Mathlib.Tactic.Lemma
import WasmTrace.Event

/-!
# The prescribed lines

What each line shows after the name of its event, written down a second time and in another form:
not as a layout over slots but as a function of the arguments, kind by kind, from a few rules for
numbers, lists, limits, opcodes, vectors and named fields.  The part of each kind in the nesting of
lines is written down in the same way.

The main statements are `Event.flatten_line`, the line that the vocabulary produces is the name,
the prescribed text and a newline, and `Kind.category_role`, its roles are those prescribed.
-/

namespace WasmTrace

namespace Prescribed

open Bytes (ofText)

/-! ## Rules for values -/

/-- A number in unsigned decimal. -/
def number (n : Nat) : Bytes := ofText (Numeral.decimal n)

/-- A number of 32 bits in signed decimal, as two's complement. -/
def signed (n : UInt32) : Bytes :=
  if n.toNat < 0x80000000 then number n.toNat
  else ofText "-" ++ number (0x100000000 - n.toNat)

/-- A number in hexadecimal, unpadded, after a mark. -/
def marked (n : Nat) : Bytes := ofText "0x" ++ ofText (Numeral.hex n)

/-- A truth value. -/
def truth : Bool → Bytes
  | true => ofText "true"
  | false => ofText "false"

/-- Texts one after the other, with a separator between them. -/
def separated (separator : String) : List Bytes → Bytes
  | [] => []
  | [item] => item
  | item :: items => item ++ ofText separator ++ separated separator items

/-- A list in brackets. -/
def list (items : List Bytes) : Bytes := ofText "[" ++ separated ", " items ++ ofText "]"

/-- The mnemonic in quotes and the code; the space of the code is not shown. -/
def opcode (o : Opcode) : Bytes :=
  ofText "\"" ++ ofText o.mnemonic ++ ofText "\" (" ++ number o.code.toNat ++ ofText ")"

/-- The eight hexadecimal digits of a lane. -/
def lane (n : UInt32) : Bytes := ofText (Numeral.hexPadded 8 n.toNat)

/-- Four lanes, each with a mark. -/
def lanes (v : Vec128) : Bytes :=
  separated " " ([v.lane0, v.lane1, v.lane2, v.lane3].map fun n => ofText "0x" ++ lane n)

/-- Four lanes with one mark in front. -/
def shuffle (v : Vec128) : Bytes :=
  ofText "0x" ++ separated " " ([v.lane0, v.lane1, v.lane2, v.lane3].map lane)

/-! ## Rules for fields -/

/-- A value with its label. -/
def field (label : String) (value : Bytes) : Bytes := ofText label ++ ofText ": " ++ value

/-- Values in parentheses, with commas between them. -/
def tuple (values : List Bytes) : Bytes := ofText "(" ++ separated ", " values ++ ofText ")"

/-- The fields of limits: there is one for the greatest size only if there is a greatest size.
Sharing is not shown. -/
def limits (l : Limits) : List Bytes :=
  field "initial" (number l.initial.toNat) ::
    match l.max? with
    | none => []
    | some max => [field "max" (number max.toNat)]

/-! ## The kinds -/

/-- What a line shows after the name, kind by kind.  Kinds without a line show nothing. -/
def arguments : (k : Kind) → k.signature.Fun Bytes
  -- no line
  | .onError | .onSetState | .onOpcode | .onOpcodeIndex | .onOpcodeUint32 | .onOpcodeUint64
  | .onOpcodeF32 | .onOpcodeF64 | .onOpcodeV128 | .onOpcodeBlockSig => fun _ => []
  | .onOpcodeIndexIndex | .onOpcodeUint32Uint32 => fun _ _ => []
  | .beginSection => fun _ _ _ => []
  | .onOpcodeBare | .onEndFunc => []
  -- the name alone
  | .endModule | .endCustomSection | .endTypeSection | .endImportSection | .endFunctionSection
  | .endTableSection | .endMemorySection | .endGlobalSection | .endExportSection
  | .endStartSection | .endCodeSection | .endElemSection | .endDataSection
  | .endDataCountSection | .endNamesSection | .endRelocSection | .endDylinkSection
  | .endLinkingSection | .endEventSection => []
  | .onCatchExpr | .onDropExpr | .onElseExpr | .onEndExpr | .onMemoryCopyExpr
  | .onMemoryFillExpr | .onMemoryGrowExpr | .onMemorySizeExpr | .onTableCopyExpr
  | .onRefNullExpr | .onRefIsNullExpr | .onNopExpr | .onRethrowExpr | .onReturnExpr
  | .onSelectExpr | .onUnreachableExpr => []
  -- a size, a count or an index
  | .beginTypeSection | .beginImportSection | .beginFunctionSection | .beginTableSection
  | .beginMemorySection | .beginGlobalSection | .beginExportSection | .beginStartSection
  | .beginCodeSection | .beginElemSection | .beginDataSection | .beginDataCountSection
  | .beginNamesSection | .beginRelocSection | .beginDylinkSection | .beginLinkingSection
  | .beginEventSection => fun size => tuple [number size.toNat]
  | .onTypeCount | .onImportCount | .onFunctionCount | .onTableCount | .onMemoryCount
  | .onGlobalCount | .onExportCount | .onFunctionBodyCount | .onLocalDeclCount
  | .onElemSegmentCount | .onDataSegmentCount | .onDataCount | .onFunctionNamesCount
  | .onLocalNameFunctionCount | .onDylinkNeededCount | .onSymbolCount | .onSegmentInfoCount
  | .onInitFunctionCount | .onComdatCount | .onEventCount => fun count => tuple [number count.toNat]
  | .beginGlobalInitExpr | .endGlobalInitExpr | .endGlobal | .onStartFunction
  | .onDataDropExpr | .onMemoryInitExpr | .onElemDropExpr | .onTableInitExpr | .onTableGetExpr
  | .onTableSetExpr | .onTableGrowExpr | .onTableSizeExpr | .endFunctionBody
  | .beginElemSegmentInitExpr | .endElemSegmentInitExpr | .onElemSegmentElemExprRefNull
  | .endElemSegment | .beginDataSegmentInitExpr | .endDataSegmentInitExpr
  | .endDataSegment => fun index => tuple [number index.toNat]
  -- one labelled index
  | .onBrExpr | .onBrIfExpr => fun depth => tuple [field "depth" (number depth.toNat)]
  | .onCallExpr | .onReturnCallExpr => fun function =>
    tuple [field "func_index" (number function.toNat)]
  | .onThrowExpr => fun event => tuple [field "event_index" (number event.toNat)]
  | .onGlobalGetExpr | .onGlobalSetExpr | .onLocalGetExpr | .onLocalSetExpr
  | .onLocalTeeExpr => fun index => tuple [field "index" (number index.toNat)]
  -- two labelled numbers
  | .onFunction | .onEventType => fun index signature =>
    tuple [field "index" (number index.toNat), field "sig_index" (number signature.toNat)]
  | .onBrOnExnExpr => fun depth event =>
    tuple [field "depth" (number depth.toNat), field "event_index" (number event.toNat)]
  | .onCallIndirectExpr | .onReturnCallIndirectExpr => fun signature table =>
    tuple [field "sig_index" (number signature.toNat), field "table_index" (number table.toNat)]
  | .onElemSegmentElemExprCount | .onLocalNameLocalCount => fun index count =>
    tuple [field "index" (number index.toNat), field "count" (number count.toNat)]
  | .onElemSegmentElemExprRefFunc => fun index function =>
    tuple [field "index" (number index.toNat), field "func_index" (number function.toNat)]
  | .onRelocCount => fun count target =>
    tuple [field "count" (number count.toNat), field "section" (number target.toNat)]
  | .onInitExprGlobalGetExpr => fun index global =>
    tuple [field "index" (number index.toNat), field "global_index" (number global.toNat)]
  | .onInitExprI32ConstExpr => fun index value =>
    tuple [field "index" (number index.toNat), field "value" (number value.toNat)]
  | .onInitExprI64ConstExpr => fun index value =>
    tuple [field "index" (number index.toNat), field "value" (number value.toNat)]
  -- module and custom sections
  | .beginModule => fun version => tuple [field "version" (number version.toNat)]
  | .beginCustomSection => fun size name =>
    tuple [ofText "'" ++ name ++ ofText "'", field "size" (number size.toNat)]
  -- types and imports
  | .onType => fun index params results =>
    tuple [field "index" (number index.toNat),
      field "params" (list (params.map fun t => ofText t.text)),
      field "results" (list (results.map fun t => ofText t.text))]
  | .onImport => fun index module name =>
    tuple [field "index" (number index.toNat),
      field "module" (ofText "\"" ++ module ++ ofText "\""),
      field "field" (ofText "\"" ++ name ++ ofText "\"")]
  | .onImportFunc => fun index _ _ function signature =>
    tuple [field "import_index" (number index.toNat), field "func_index" (number function.toNat),
      field "sig_index" (number signature.toNat)]
  | .onImportTable => fun index _ _ table type bounds =>
    tuple ([field "import_index" (number index.toNat), field "table_index" (number table.toNat),
      field "elem_type" (ofText type.name)] ++ limits bounds)
  | .onImportMemory => fun index _ _ memory bounds =>
    tuple ([field "import_index" (number index.toNat),
      field "memory_index" (number memory.toNat)] ++ limits bounds)
  | .onImportGlobal => fun index _ _ global type isMutable =>
    tuple [field "import_index" (number index.toNat), field "global_index" (number global.toNat),
      field "type" (ofText type.name), field "mutable" (truth isMutable)]
  | .onImportEvent => fun index _ _ event signature =>
    tuple [field "import_index" (number index.toNat), field "event_index" (number event.toNat),
      field "sig_index" (number signature.toNat)]
  -- tables, memories, globals, exports
  | .onTable => fun index type bounds =>
    tuple ([field "index" (number index.toNat), field "elem_type" (ofText type.name)] ++
      limits bounds)
  | .onMemory => fun index bounds => tuple (field "index" (number index.toNat) :: limits bounds)
  | .beginGlobal => fun index type isMutable =>
    tuple [field "index" (number index.toNat), field "type" (ofText type.name),
      field "mutable" (truth isMutable)]
  | .onExport => fun index kind item name =>
    tuple [field "index" (number index.toNat), field "kind" (ofText kind.name),
      field "item_index" (number item.toNat), field "name" (ofText "\"" ++ name ++ ofText "\"")]
  -- bodies and instructions
  | .beginFunctionBody => fun index size =>
    tuple [number index.toNat, ofText "size:" ++ number size.toNat]
  | .onLocalDecl => fun index count type =>
    tuple [field "index" (number index.toNat), field "count" (number count.toNat),
      field "type" (ofText type.name)]
  | .onAtomicLoadExpr | .onAtomicStoreExpr | .onAtomicRmwExpr | .onAtomicRmwCmpxchgExpr
  | .onAtomicWaitExpr | .onAtomicNotifyExpr | .onLoadExpr
  | .onStoreExpr => fun instruction alignment offset =>
    tuple [field "opcode" (opcode instruction), field "align log2" (number alignment.toNat),
      field "offset" (number offset.toNat)]
  | .onBinaryExpr | .onCompareExpr | .onConvertExpr | .onUnaryExpr
  | .onTernaryExpr => fun instruction => tuple [opcode instruction]
  | .onBlockExpr | .onIfExpr | .onLoopExpr | .onTryExpr => fun type =>
    tuple [field "sig" (ofText type.text)]
  | .onBrTableExpr => fun targets default =>
    tuple [field "num_targets" (number targets.length),
      field "depths" (list (targets.map fun n => number n.toNat)),
      field "default" (number default.toNat)]
  | .onI32ConstExpr => fun value =>
    tuple [number value.toNat ++ ofText " " ++ tuple [marked value.toNat]]
  | .onI64ConstExpr => fun value =>
    tuple [number value.toNat ++ ofText " " ++ tuple [marked value.toNat]]
  | .onF32ConstExpr => fun bits =>
    tuple [ofText (Binary32.text bits) ++ ofText " " ++ tuple [marked bits.toNat]]
  | .onF64ConstExpr => fun bits =>
    tuple [ofText (Binary64.text bits) ++ ofText " " ++ tuple [marked bits.toNat]]
  | .onV128ConstExpr => fun bits => tuple [lanes bits]
  | .onSimdLaneOpExpr => fun _ value =>
    ofText " " ++ tuple [field "lane" (number value.toNat)]
  | .onSimdShuffleOpExpr => fun _ value => ofText " " ++ tuple [field "lane" (shuffle value)]
  -- segments
  | .beginElemSegment => fun index table passive type =>
    tuple [field "index" (number index.toNat), field "table_index" (number table.toNat),
      field "passive" (truth passive), field "elem_type" (ofText type.name)]
  | .beginDataSegment => fun index memory passive =>
    tuple [field "index" (number index.toNat), field "memory_index" (number memory.toNat),
      field "passive" (truth passive)]
  | .onDataSegmentData => fun index data =>
    tuple [ofText "index:" ++ number index.toNat, ofText "size:" ++ number data.length]
  -- names
  | .onModuleNameSubsection | .onFunctionNameSubsection
  | .onLocalNameSubsection => fun index type size =>
    tuple [ofText "index:" ++ number index.toNat, ofText "nametype:" ++ number type.toNat,
      ofText "size:" ++ number size.toNat]
  | .onModuleName => fun name => tuple [field "name" (ofText "\"" ++ name ++ ofText "\"")]
  | .onFunctionName => fun function name =>
    tuple [field "index" (number function.toNat),
      field "name" (ofText "\"" ++ name ++ ofText "\"")]
  | .onLocalName => fun function localIndex name =>
    tuple [field "func_index" (number function.toNat), field "local_index" (number localIndex.toNat),
      field "name" (ofText "\"" ++ name ++ ofText "\"")]
  -- relocation and dynamic linking
  | .onReloc => fun type offset index addend =>
    tuple [field "type" (ofText type.name), field "offset" (number offset.toNat),
      field "index" (number index.toNat), field "addend" (signed addend)]
  | .onDylinkInfo => fun memorySize memoryAlignment tableSize tableAlignment =>
    tuple [field "mem_size" (number memorySize.toNat),
      field "mem_align" (number memoryAlignment.toNat),
      field "table_size" (number tableSize.toNat),
      field "table_align" (number tableAlignment.toNat)]
  | .onDylinkNeeded => fun name => tuple [field "name" name]
  -- symbols
  | .onSymbol => fun _ type flags =>
    tuple [separated " " [field "type" (ofText type.name), field "flags" (marked flags.toNat)]]
  | .onDataSymbol => fun _ flags name _ _ _ =>
    tuple [separated " " [field "name" name, field "flags" (marked flags.toNat)]]
  | .onFunctionSymbol | .onGlobalSymbol | .onEventSymbol => fun _ flags name item =>
    tuple [separated " " [field "name" name, field "flags" (marked flags.toNat),
      field "index" (number item.toNat)]]
  | .onSectionSymbol => fun _ flags target =>
    tuple [separated " " [field "flags" (marked flags.toNat), field "index" (number target.toNat)]]
  -- static linking
  | .onSegmentInfo => fun index name alignment flags =>
    tuple [signed index ++ ofText " " ++ field "name" name, field "alignment" (signed alignment),
      field "flags" (marked flags.toNat)]
  | .onInitFunction => fun priority function =>
    tuple [signed function ++ ofText " " ++ field "priority" (signed priority)]
  | .onComdatBegin => fun name flags count =>
    tuple [name, field "flags" (signed flags), field "count" (number count.toNat)]
  | .onComdatEntry => fun kind index =>
    tuple [field "kind" (number kind.code.toNat), field "index" (number index.toNat)]
  -- initial values
  | .onInitExprF32ConstExpr => fun index bits =>
    tuple [field "index" (number index.toNat),
      field "value" (ofText (Binary32.text bits) ++ ofText " " ++ tuple [marked bits.toNat])]
  | .onInitExprF64ConstExpr => fun index bits =>
    tuple [separated " " [field "index" (number index.toNat),
      field "value" (ofText (Binary64.text bits) ++ ofText " " ++ tuple [marked bits.toNat])]]
  | .onInitExprV128ConstExpr => fun index bits =>
    tuple [separated " " [field "index" (number index.toNat),
      field "value" (ofText "( " ++ lanes bits ++ ofText ")")]]

/-! ## The rules against the texts -/

lemma separated_cons_cons (separator : String) (a b : Bytes) (items : List Bytes) :
    separated separator (a :: b :: items) =
      a ++ ofText separator ++ separated separator (b :: items) := rfl

/-- Texts joined with a separator, as bytes. -/
lemma ofText_intercalate (separator : String) (items : List String) :
    ofText (separator.intercalate items) = separated separator (items.map ofText) := by
  induction items with
  | nil => rfl
  | cons item items ih =>
    cases items with
    | nil => simp [separated]
    | cons next items =>
      rw [String.intercalate_cons_cons, Bytes.ofText_append, Bytes.ofText_append, ih]
      simp only [List.map_cons, separated_cons_cons]

/-- A list in brackets, as bytes. -/
lemma ofText_bracketed (items : List String) :
    ofText (bracketed items) = list (items.map ofText) := by
  rw [bracketed, Bytes.ofText_append, Bytes.ofText_append, ofText_intercalate, list]

/-- A number in two's complement, as bytes. -/
lemma ofText_signed (n : UInt32) : ofText (Numeral.signed n.toInt32.toInt) = signed n := by
  have hvalue : n.toInt32.toInt =
      if 2 * n.toNat < 2 ^ 32 then (n.toNat : Int) else (n.toNat : Int) - (2 ^ 32 : Nat) :=
    BitVec.toInt_eq_toNat_cond n.toBitVec
  have hlt : n.toNat < 2 ^ 32 := n.toNat_lt
  rw [Numeral.signed, signed, hvalue, number, number]
  by_cases hn : n.toNat < 0x80000000
  · have hsmall : 2 * n.toNat < 2 ^ 32 := by omega
    have hpos : ¬ (n.toNat : Int) < 0 := by omega
    rw [if_pos hn, if_pos hsmall, if_neg hpos, Int.natAbs_natCast]
  · have hlarge : ¬ 2 * n.toNat < 2 ^ 32 := by omega
    have hneg : (n.toNat : Int) - (2 ^ 32 : Nat) < 0 := by omega
    have habs : ((n.toNat : Int) - (2 ^ 32 : Nat)).natAbs = 0x100000000 - n.toNat := by omega
    rw [if_neg hn, if_neg hlarge, if_pos hneg, Bytes.ofText_append, habs]

lemma ofText_flagText (b : Bool) : ofText (flagText b) = truth b := by
  cases b <;> rfl

/-- Limits are two fields or one, as bytes. -/
lemma ofText_limits (l : Limits) : ofText l.text = separated ", " (limits l) := by
  obtain ⟨initial, max?, shared⟩ := l
  cases max? with
  | none =>
    simp only [Limits.text, limits, separated, field, number, Bytes.ofText_append]
    simp only [ofText, String.reduceToList, List.flatMap_cons, List.flatMap_nil,
      List.append_assoc, List.append_nil]
  | some max =>
    simp only [Limits.text, limits, separated, field, number, Bytes.ofText_append]
    simp only [ofText, String.reduceToList, List.flatMap_cons, List.flatMap_nil,
      List.append_assoc, List.append_nil]

/-- Limits after another field. -/
lemma separated_limits (item : Bytes) (l : Limits) :
    separated ", " (item :: limits l) = item ++ ofText ", " ++ ofText l.text := by
  rw [ofText_limits, limits, separated_cons_cons]

lemma ofText_opcode (o : Opcode) : ofText o.text = opcode o := by
  rw [Opcode.text, Bytes.ofText_append, Bytes.ofText_append, Bytes.ofText_append,
    Bytes.ofText_append, opcode, number]

lemma ofText_lanesText (v : Vec128) : ofText v.lanesText = lanes v := by
  simp only [Vec128.lanesText, Vec128.laneDigits, lanes, lane, List.map_cons, List.map_nil,
    separated, Bytes.ofText_append]
  simp only [ofText, String.reduceToList, List.flatMap_cons, List.flatMap_nil, List.append_assoc,
    List.append_nil]

lemma ofText_shuffleText (v : Vec128) : ofText v.shuffleText = shuffle v := by
  simp only [Vec128.shuffleText, Vec128.laneDigits, shuffle, lane, List.map_cons, List.map_nil,
    separated, Bytes.ofText_append, List.append_assoc]

/-! ## The nesting -/

/-- What is prescribed for an event in the nesting of lines. -/
inductive Category where
  /-- Its line opens a level. -/
  | opening
  /-- It closes a level, and its line stands outside of it. -/
  | closing
  /-- It has a line at the current level. -/
  | leaf
  /-- It has no line. -/
  | silent
  deriving DecidableEq, Repr

/-- The members of the categories; what is not named is a leaf. -/
def category : Kind → Category
  | .beginModule | .beginCustomSection | .beginTypeSection | .beginImportSection
  | .beginFunctionSection | .beginTableSection | .beginMemorySection | .beginGlobalSection
  | .beginExportSection | .beginStartSection | .beginCodeSection | .beginElemSection
  | .beginDataSection | .beginDataCountSection | .beginNamesSection | .beginRelocSection
  | .beginDylinkSection | .beginLinkingSection | .beginEventSection => .opening
  | .endModule | .endCustomSection | .endTypeSection | .endImportSection
  | .endFunctionSection | .endTableSection | .endMemorySection | .endGlobalSection
  | .endExportSection | .endStartSection | .endCodeSection | .endElemSection
  | .endDataSection | .endDataCountSection | .endNamesSection | .endRelocSection
  | .endDylinkSection | .endLinkingSection | .endEventSection => .closing
  | .onError | .onSetState | .beginSection | .onOpcode | .onOpcodeBare | .onOpcodeIndex
  | .onOpcodeIndexIndex | .onOpcodeUint32 | .onOpcodeUint32Uint32 | .onOpcodeUint64
  | .onOpcodeF32 | .onOpcodeF64 | .onOpcodeV128 | .onOpcodeBlockSig | .onEndFunc => .silent
  | _ => .leaf

end Prescribed

/-- The category of a role: which kind closes a level is left out. -/
def Role.category : Role → Prescribed.Category
  | .opens _ => .opening
  | .closes => .closing
  | .leaf => .leaf
  | .silent => .silent

/-- The role of each kind is as prescribed. -/
theorem Kind.category_role (k : Kind) : k.role.category = Prescribed.category k := by
  cases k <;> rfl

/-! ## Reading a layout -/

namespace Args

variable {name : String} {t u : ArgType} {sig : Signature} (value : t.Value) (rest : Args sig)

lemma get_here : (Args.cons value rest : Args ((name, t) :: sig)).get .here = value := rfl

lemma get_there (x : Slot sig u) :
    (Args.cons value rest : Args ((name, t) :: sig)).get (.there x) = rest.get x := rfl

end Args

namespace Layout

variable {sig : Signature} (args : Args sig) (layout : Layout sig)

lemma flatten_render_nil : (Layout.render [] args).flatten = [] := rfl

lemma flatten_render_text (s : String) :
    (Layout.render (.text s :: layout) args).flatten =
      Bytes.ofText s ++ (Layout.render layout args).flatten := rfl

lemma flatten_render_field {t : ArgType} (x : Slot sig t) (style : Style t) :
    (Layout.render (.field x style :: layout) args).flatten =
      style.render (args.get x) ++ (Layout.render layout args).flatten := rfl

end Layout

open Prescribed Bytes in
/-- **The layout of each kind shows what is prescribed for the kind.** -/
theorem Kind.flatten_render_layout (k : Kind) (args : Args k.signature) :
    (Layout.render k.layout args).flatten = args.apply (arguments k) := by
  cases k
  all_goals rcases args with _ | ⟨a, _ | ⟨b, _ | ⟨c, _ | ⟨d, _ | ⟨e, _ | ⟨f, _ | _⟩⟩⟩⟩⟩⟩
  -- both sides, as concatenations of fixed texts and shown arguments
  all_goals dsimp only [Kind.signature, Kind.layout, Kind.entry, Layout.flatten_render_nil,
    Layout.flatten_render_text, Layout.flatten_render_field, Args.get_here, Args.get_there,
    Slot.first, Slot.second, Slot.third, Slot.fourth, Slot.fifth, Slot.sixth, Style.render,
    Args.apply, arguments, tuple, field, number, marked, List.cons_append, List.nil_append]
  all_goals simp only [separated_limits, separated, list, ofText_signed, ofText_flagText,
    ValType.listText, indicesText, ofText_bracketed, List.map_map, Function.comp_def, ofText_opcode,
    ofText_lanesText, ofText_shuffleText, Bytes.ofText_append]
  -- fixed texts are cut differently on the two sides, so they are compared letter by letter
  all_goals simp only [ofText, String.reduceToList, List.flatMap_cons, List.flatMap_nil,
    List.append_assoc, List.append_nil]

/-- **The line of an event** is the name, what is prescribed for the kind and a newline. -/
theorem Event.flatten_line (e : Event) :
    e.line.flatten = Bytes.ofText e.kind.name ++ e.args.apply (Prescribed.arguments e.kind) ++
      [Bytes.newline] := by
  rw [Event.line, List.flatten_append, List.flatten_cons, Kind.flatten_render_layout]
  rfl

end WasmTrace

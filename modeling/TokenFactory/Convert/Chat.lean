import TokenFactory.Go.Json
import TokenFactory.Go.Text

namespace TokenFactory.Convert

open Go

/-! Unstreamed chat answers between the formats of OpenAI and Claude. -/

structure ToolCall where
  id : String
  name : String
  arguments : String
deriving DecidableEq

inductive MediaContent where
  | text (text : String)
  | other
deriving DecidableEq

def MediaContent.subStr : MediaContent → String
  | .text subStr => subStr
  | .other => ""

inductive MessageContent where
  | empty
  | string (text : String)
  | media (items : List MediaContent)
deriving DecidableEq

structure Message where
  role : String
  content : MessageContent := .empty
  reasoningContent : String := ""
  toolCalls : List ToolCall := []
deriving DecidableEq

def Message.stringContent (message : Message) : String :=
  match message.content with
  | .string text => text
  | .media items => String.join (items.map MediaContent.subStr)
  | .empty => ""

structure Choice where
  message : Message
  finishReason : String
deriving DecidableEq

structure OpenAITextResponse where
  id : String
  model : String
  choices : List Choice
deriving DecidableEq

inductive BlockType where
  | text | thinking | toolUse | other
deriving DecidableEq

structure ClaudeMediaMessage where
  type : BlockType
  text : Option String := none
  thinking : Option String := none
  id : String := ""
  name : String := ""
  input : Json := .null
deriving DecidableEq

def ClaudeMediaMessage.getText (block : ClaudeMediaMessage) : String := block.text.getD ""

structure ClaudeResponse where
  id : String
  model : String
  content : List ClaudeMediaMessage
  stopReason : String
deriving DecidableEq

def stopReasonOpenAI2Claude (reason : String) : String :=
  match reason.toLower with
  | "stop" => "end_turn"
  | "stop_sequence" => "stop_sequence"
  | "length" | "max_tokens" => "max_tokens"
  | "content_filter" => "refusal"
  | "tool_calls" => "tool_use"
  | _ => reason

def stopReasonClaude2OpenAI (reason : String) : String :=
  match reason.toLower with
  | "stop_sequence" | "end_turn" => "stop"
  | "max_tokens" => "length"
  | "tool_use" => "tool_calls"
  | "refusal" => "content_filter"
  | _ => reason

section Claude
variable (unmarshal : String → Option Json) (marshal : Json → String)

/-- Arguments that are no JSON object are passed on as text. -/
def toolUse (call : ToolCall) : ClaudeMediaMessage where
  type := .toolUse
  id := call.id
  name := call.name
  input := (unmarshal call.arguments).getD (.string call.arguments)

def choiceContents (choice : Choice) : List ClaudeMediaMessage :=
  if choice.finishReason = "tool_calls" then choice.message.toolCalls.map (toolUse unmarshal)
  else [{ type := .text, text := some choice.message.stringContent }]

def responseOpenAI2Claude (response : OpenAITextResponse) : ClaudeResponse where
  id := response.id
  model := response.model
  content := response.choices.flatMap (choiceContents unmarshal)
  stopReason := (response.choices.getLast?.map fun choice => stopReasonOpenAI2Claude choice.finishReason).getD ""

structure Collected where
  responseText : String
  thinkingContent : String := ""
  tools : List ToolCall := []

def Collected.add (collected : Collected) (block : ClaudeMediaMessage) : Collected :=
  match block.type with
  | .toolUse => { collected with tools := collected.tools ++ [⟨block.id, block.name, marshal block.input⟩] }
  | .thinking => { collected with thinkingContent := block.thinking.getD collected.thinkingContent }
  | .text => { collected with responseText := block.getText }
  | .other => collected

def responseClaude2OpenAI (response : ClaudeResponse) : OpenAITextResponse :=
  let collected := response.content.foldl (Collected.add marshal)
    { responseText := (response.content.head?.map ClaudeMediaMessage.getText).getD "" }
  -- The thinking of the first block is written first, and then overwritten.
  { id := response.id
    model := response.model
    choices := [{
      message := {
        role := "assistant"
        content := .string collected.responseText
        reasoningContent := collected.thinkingContent
        toolCalls := collected.tools }
      finishReason := stopReasonClaude2OpenAI response.stopReason }] }

def texts (content : List ClaudeMediaMessage) : List String :=
  (content.filter fun block => block.type = .text).map ClaudeMediaMessage.getText

def thinkings (content : List ClaudeMediaMessage) : List String :=
  (content.filter fun block => block.type = .thinking).filterMap ClaudeMediaMessage.thinking

def toolUses (content : List ClaudeMediaMessage) : List ToolCall :=
  (content.filter fun block => block.type = .toolUse).map fun block => ⟨block.id, block.name, marshal block.input⟩

theorem foldl_add (content : List ClaudeMediaMessage) (start : Collected) :
    content.foldl (Collected.add marshal) start =
      ⟨(texts content).getLast?.getD start.responseText, (thinkings content).getLast?.getD start.thinkingContent,
        start.tools ++ toolUses marshal content⟩ := by
  induction content generalizing start with
  | nil => simp [texts, thinkings, toolUses]
  | cons block rest ih =>
    rw [List.foldl_cons, ih, Collected.add]
    cases kind : block.type with
    | thinking => cases held : block.thinking <;> simp [texts, thinkings, toolUses, kind, held, List.getLast?_cons]
    | _ => simp [texts, thinkings, toolUses, kind, List.getLast?_cons]

theorem getLast_eq_join (parts : List String) (start : String) :
    parts.getLast?.getD start = String.join parts ↔ (parts = [] → start = "") ∧ ∀ part ∈ parts.dropLast, part = "" := by
  induction parts using List.reverseRecOn with
  | nil => simp [String.join]
  | append_singleton init last =>
    rw [← String.toList_inj, String.toList_join]
    simp

/-- Only the last text and the last thought arrive. -/
theorem claude_answer_complete_iff (response : ClaudeResponse) :
    ∃ choice, (responseClaude2OpenAI marshal response).choices = [choice] ∧
      choice.message.toolCalls = toolUses marshal response.content ∧
      (choice.message.content = .string (String.join (texts response.content)) ↔
        (texts response.content = [] → ∀ block ∈ response.content.head?, block.getText = "") ∧
          ∀ text ∈ (texts response.content).dropLast, text = "") ∧
      (choice.message.reasoningContent = String.join (thinkings response.content) ↔
        ∀ thought ∈ (thinkings response.content).dropLast, thought = "") := by
  refine ⟨_, rfl, ?_⟩
  simp only [foldl_add, List.nil_append, MessageContent.string.injEq, getLast_eq_join, true_and, implies_true]
  cases response.content <;> simp

theorem openai_answer_cut :
    ((responseClaude2OpenAI (fun _ => "") ⟨"", "", [{ type := .text, text := some "First." },
      { type := .text, text := some "Second." }], "end_turn"⟩).choices.map fun choice => choice.message.content) =
      [.string "Second."] := by
  decide

end Claude

end TokenFactory.Convert

import ToolAssistant.Main
import ToolAssistant.Rehearsal.World
import ToolAssistant.Proofs.Arithmetic.Grammar
import ToolAssistant.Proofs.Arithmetic.Integers
import ToolAssistant.Proofs.Arithmetic.Lexemes
import ToolAssistant.Proofs.Decimal.Finite
import ToolAssistant.Proofs.Arithmetic.Finite
import ToolAssistant.Proofs.Text.Blank
import ToolAssistant.Proofs.Conversation.Prompt
import ToolAssistant.Proofs.Turn.Step
import ToolAssistant.Proofs.Turn.Composition
import ToolAssistant.Proofs.Turn.Context
import ToolAssistant.Proofs.Turn.Journal
import ToolAssistant.Proofs.Turn.Course
import ToolAssistant.Proofs.Tool.Arguments
import ToolAssistant.Proofs.Tool.Resolution
import ToolAssistant.Proofs.Watched
import ToolAssistant.Proofs.Session.Conversation
import ToolAssistant.Proofs.Session.Parts
import ToolAssistant.Proofs.Session.Degradation
import ToolAssistant.Proofs.Gemini.Contents
import ToolAssistant.Proofs.Gemini.Decoding
import ToolAssistant.Proofs.Turn.Upkeep
import ToolAssistant.Proofs.Decimal.Integral
import ToolAssistant.Proofs.Tool.Rendering
import ToolAssistant.Proofs.Decimal.Order
import ToolAssistant.Proofs.Memory.Storage
import ToolAssistant.Proofs.Memory.Isolation
import ToolAssistant.Proofs.Memory.Gateway
import ToolAssistant.Proofs.Turn.Concurrency
import ToolAssistant.Proofs.Decimal.Interval
import ToolAssistant.Proofs.Program.Launch
import ToolAssistant.Proofs.Text.Secrets
import ToolAssistant.Proofs.Text.Scrub
import ToolAssistant.Proofs.Tool.Weather
import ToolAssistant.Proofs.Text.Scrubbed
import ToolAssistant.Proofs.Arithmetic.Remainder
import ToolAssistant.Proofs.Arithmetic.Refusal
import ToolAssistant.Proofs.Arithmetic.Nesting
import ToolAssistant.Proofs.Arithmetic.Promotion
import ToolAssistant.Proofs.Arithmetic.Printing
import ToolAssistant.Proofs.Tool.Registration
import ToolAssistant.Proofs.Text.Lowercase
import ToolAssistant.Proofs.Memory.Query
import ToolAssistant.Proofs.Json.Fields
import ToolAssistant.Proofs.Tool.Normalisation
import ToolAssistant.Proofs.Calendar.Date
import ToolAssistant.Proofs.Tool.DateOffset
import ToolAssistant.Proofs.Http.Form
import ToolAssistant.Proofs.Http.Url
import ToolAssistant.Proofs.Settings.Home
import ToolAssistant.Proofs.Tool.WeatherRequest
import ToolAssistant.Proofs.Calendar.Instant
import ToolAssistant.Proofs.Json.Record
import ToolAssistant.Proofs.Conversation.Records
import ToolAssistant.Proofs.Tool.TextAnalysis

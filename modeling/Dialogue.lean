import Dialogue.CommandLine.Run
import Dialogue.Document.Writer
import Dialogue.Localization.Mode
import Dialogue.Main
import Dialogue.Proofs.Reachable
import Dialogue.Proofs.DefinitionReading
import Dialogue.Proofs.ScriptLines
import Dialogue.Proofs.Walk
import Dialogue.Proofs.EntryResolution
import Dialogue.Proofs.EffectResolution
import Dialogue.Proofs.TableReading
import Dialogue.Proofs.LocalizedRows
import Dialogue.Proofs.FreshKeys
import Dialogue.Proofs.IncrementalLocalization
import Dialogue.Proofs.LineFrame
import Dialogue.Proofs.LocalizationRoundTrip
import Dialogue.Proofs.ShownTexts
import Dialogue.Proofs.Json.Brackets
import Dialogue.Proofs.DocumentRoundTrip
import Dialogue.Proofs.Storage.Places
import Dialogue.Proofs.Storage.Contents
import Dialogue.Proofs.Storing
import Dialogue.Proofs.Arguments
import Dialogue.Proofs.DocumentTexts
import Dialogue.Proofs.Plans
import Dialogue.Proofs.SingleCommands
import Dialogue.Proofs.EverythingCommand
import Dialogue.Proofs.EarliestFault
import Dialogue.Proofs.DocumentDrafts
import Dialogue.Proofs.FailedRuns
import Dialogue.Proofs.GlobalVariables
import Dialogue.Proofs.DocumentCycle
import Dialogue.Proofs.DocumentForms
import Dialogue.Proofs.KeyedLines
import Dialogue.Proofs.RebasedReferences
import Dialogue.Proofs.RebasedModes
import Dialogue.Proofs.TableTexts
import Dialogue.Proofs.ConversationFrame
import Dialogue.Proofs.ScriptDependence
import Dialogue.Proofs.KeylessLines
import Dialogue.Proofs.ScreenOrder
import Dialogue.Proofs.JournalRows
import Dialogue.Proofs.EncodingLimits
import Dialogue.Proofs.NumberWidths
import Dialogue.Proofs.EncodingSize
import Dialogue.Proofs.ReferenceForms
import Dialogue.Proofs.Lua.ShortString
import Dialogue.Proofs.Storage.Frame
import Dialogue.Proofs.SavedScripts

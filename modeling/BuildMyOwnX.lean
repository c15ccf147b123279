import BuildMyOwnX.Framework.Tensor
import BuildMyOwnX.KVCache.Model
import BuildMyOwnX.KVCache.Causal
import BuildMyOwnX.Framework.Loop
import BuildMyOwnX.KVCache.Refinement
import BuildMyOwnX.KVCache.CachedRun
import BuildMyOwnX.KVCache.Generate
import BuildMyOwnX.KVCache.GenerateRuns
import BuildMyOwnX.Framework.Multigraph
import BuildMyOwnX.GNN.Equivariance
import BuildMyOwnX.Framework.Json
import BuildMyOwnX.Framework.EventStream
import BuildMyOwnX.Framework.JsonRoundTrip
import BuildMyOwnX.Framework.PyString
import BuildMyOwnX.Server.Completions
import BuildMyOwnX.Server.Streaming
import BuildMyOwnX.CPU.Components
import BuildMyOwnX.CPU.Cpu
import BuildMyOwnX.CPU.Reset
import BuildMyOwnX.CPU.Isa
import BuildMyOwnX.CPU.WriteBack
import BuildMyOwnX.CPU.Halt
import BuildMyOwnX.CPU.Refinement
import BuildMyOwnX.CPU.Chip
import BuildMyOwnX.KVCache.Attention
import BuildMyOwnX.KVCache.GenerateContract
import BuildMyOwnX.CPU.Store
import BuildMyOwnX.CPU.ProgramCounter
import BuildMyOwnX.GNN.ReceptiveField
import BuildMyOwnX.Server.Bookkeeping
import BuildMyOwnX.Server.Responses
import BuildMyOwnX.Server.PromptText
import BuildMyOwnX.Server.StartedCalls
import BuildMyOwnX.Framework.DictHeap
import BuildMyOwnX.Config.RuntimeConfig
import BuildMyOwnX.Config.Spellings
import BuildMyOwnX.CPU.Alu
import BuildMyOwnX.CPU.Arithmetic
import BuildMyOwnX.CPU.Timing
import BuildMyOwnX.Framework.Interleave
import BuildMyOwnX.KVCache.Interleaved
import BuildMyOwnX.KVCache.Sampling
import BuildMyOwnX.Framework.LruCache
import BuildMyOwnX.Server.ModelCache
import BuildMyOwnX.Server.Sessions
import BuildMyOwnX.KVCache.Timings
import BuildMyOwnX.Server.Loading
import BuildMyOwnX.KVCache.Main
import BuildMyOwnX.KVCache.Rewind
import BuildMyOwnX.CPU.Fetch
import BuildMyOwnX.CPU.ChipRun
import BuildMyOwnX.Framework.Simplex
import BuildMyOwnX.GNN.Colors
import BuildMyOwnX.GNN.Training
import BuildMyOwnX.Framework.Sessions
import BuildMyOwnX.Server.HfSessions
import BuildMyOwnX.KVCache.Work
import BuildMyOwnX.CPU.Formats
import BuildMyOwnX.Server.Startup
import BuildMyOwnX.GNN.RelabelledTraining
import BuildMyOwnX.Server.Concurrent
import BuildMyOwnX.Server.Threads

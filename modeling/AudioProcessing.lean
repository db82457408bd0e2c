import AudioProcessing.Native.CTypes
import AudioProcessing.Native.StreamConfig
import AudioProcessing.Native.ProcessingConfig
import AudioProcessing.Native.RuntimeSetting
import AudioProcessing.Native.Config
import AudioProcessing.Spec.Frames
import AudioProcessing.Spec.StreamConfigInvariant
import AudioProcessing.Spec.ProcessingConfigEq
import AudioProcessing.Spec.ConfigAssignRuns
